import SignOn.Proofs.Service.Trace
/-!
# Reasoning about programs

A program goes through a state that its steps change: the list of its
own steps, or the store. A `Setting` says, in each state, which steps are
permitted and which replies are possible and lead where. A program meets
a condition in a setting if it takes permitted steps only, whatever the
replies, and the condition holds of its result. `Procedure.Meets` is the
same with two conditions, for a result and for a failure, and goes along
the pieces that procedures are made of.
-/

namespace SignOn

/-- What a program may do and what it may get, from state to state. -/
structure Setting (σ : Type) where
  permits : σ → Effect → Prop
  answers : σ → (e : Effect) → e.Reply → σ → Prop

namespace Program

variable {σ α β : Type} {E : Setting σ} {Q Q' : σ → α → Prop} {s : σ}

/-- Every step is permitted, and the condition holds at the end. -/
def Meets (E : Setting σ) (Q : σ → α → Prop) : Program α → σ → Prop
  | .done a, s => Q s a
  | .await e next, s => E.permits s e ∧ ∀ r s', E.answers s e r s' → (next r).Meets E Q s'

theorem Meets.mono {p : Program α} (h : p.Meets E Q s) (hQ : ∀ s a, Q s a → Q' s a) :
    p.Meets E Q' s := by
  induction p generalizing s with
  | done a => exact hQ s a h
  | await e next ih => exact ⟨h.1, fun r s' hr => ih r (h.2 r s' hr)⟩

/-- Two conditions that it meets it meets at once. -/
theorem Meets.and {p : Program α} (h : p.Meets E Q s) (h' : p.Meets E Q' s) :
    p.Meets E (fun s a => Q s a ∧ Q' s a) s := by
  induction p generalizing s with
  | done a => exact ⟨h, h'⟩
  | await e next ih => exact ⟨h.1, fun r s' hr => ih r (h.2 r s' hr) (h'.2 r s' hr)⟩

/-- **One program after another**: the first one meets that the second
meets the condition. -/
theorem meets_bind {p : Program α} {f : α → Program β} {Q : σ → β → Prop} :
    (p.bind f).Meets E Q s ↔ p.Meets E (fun s a => (f a).Meets E Q s) s := by
  induction p generalizing s with
  | done a => exact Iff.rfl
  | await e next ih =>
    refine and_congr_right fun _ => ?_
    exact forall_congr' fun r => forall_congr' fun s' => imp_congr_right fun _ => ih r

end Program

namespace Procedure

variable {σ α β : Type} {E : Setting σ} {s : σ}
variable {ok : σ → α → Prop} {fail : σ → Failure ServiceError → Prop}

/-- Every step is permitted; `ok` holds of a result, and `fail` of a
failure. -/
def Meets (E : Setting σ) (ok : σ → α → Prop) (fail : σ → Failure ServiceError → Prop)
    (x : Procedure α) (s : σ) : Prop :=
  Program.Meets E (fun s r => match r with
    | .ok a => ok s a
    | .error e => fail s e) x.run s

theorem Meets.mono {x : Procedure α} {ok' : σ → α → Prop} {fail' : σ → Failure ServiceError → Prop}
    (h : Meets E ok fail x s) (hok : ∀ s a, ok s a → ok' s a)
    (hfail : ∀ s e, fail s e → fail' s e) : Meets E ok' fail' x s := by
  refine Program.Meets.mono h fun s r hr => ?_
  cases r with
  | ok a => exact hok s a hr
  | error e => exact hfail s e hr

theorem Meets.and {x : Procedure α} {ok' : σ → α → Prop} {fail' : σ → Failure ServiceError → Prop}
    (h : Meets E ok fail x s) (h' : Meets E ok' fail' x s) :
    Meets E (fun s a => ok s a ∧ ok' s a) (fun s e => fail s e ∧ fail' s e) x s := by
  refine (Program.Meets.and h h').mono fun s r hr => ?_
  cases r with
  | ok a => exact hr
  | error e => exact hr

/-- What cannot fail ends with a result. -/
theorem Meets.run_ok {x : Procedure α} (h : Meets E ok (fun _ _ => False) x s) :
    x.run.Meets E (fun s r => ∃ a, r = .ok a ∧ ok s a) s := by
  refine Program.Meets.mono h fun s r hr => ?_
  cases r with
  | ok a => exact ⟨a, rfl, hr⟩
  | error e => exact hr.elim

/-- What cannot succeed ends with a failure. -/
theorem Meets.run_error {x : Procedure α} (h : Meets E (fun _ _ => False) fail x s) :
    x.run.Meets E (fun s r => ∃ e, r = .error e ∧ fail s e) s := by
  refine Program.Meets.mono h fun s r hr => ?_
  cases r with
  | ok a => exact hr.elim
  | error e => exact ⟨e, rfl, hr⟩

@[simp] theorem meets_pure {a : α} : Meets E ok fail (pure a) s ↔ ok s a := Iff.rfl

@[simp] theorem meets_throw {e : Failure ServiceError} :
    Meets E ok fail (throw e : Procedure α) s ↔ fail s e := Iff.rfl

@[simp] theorem meets_report {e : ServiceError} :
    Meets E ok fail (report e : Procedure α) s ↔ fail s (.reported e) := Iff.rfl

/-- **One procedure after another.** -/
@[simp] theorem meets_bind {x : Procedure α} {f : α → Procedure β} {ok : σ → β → Prop} :
    Meets E ok fail (x >>= f) s ↔ Meets E (fun s a => Meets E ok fail (f a) s) fail x s := by
  refine Program.meets_bind.trans ⟨fun h => ?_, fun h => ?_⟩
  · exact Program.Meets.mono h fun s r hr => by cases r <;> exact hr
  · exact Program.Meets.mono h fun s r hr => by cases r <;> exact hr

@[simp] theorem meets_map {x : Procedure α} {f : α → β} {ok : σ → β → Prop} :
    Meets E ok fail (f <$> x) s ↔ Meets E (fun s a => ok s (f a)) fail x s := by
  rw [← bind_pure_comp, meets_bind]
  exact Iff.rfl

@[simp] theorem meets_step {e : Effect} {ok : σ → e.Reply → Prop} :
    Meets E ok fail (step e) s ↔
      E.permits s e ∧ ∀ r s', E.answers s e r s' → ok s' r := Iff.rfl

/-- **An error that is handled** may lead to anything that the handler
leads to; an abort is not handled. -/
theorem meets_recover {x : Procedure α} {handle : ServiceError → Procedure α} :
    Meets E ok fail (recover x handle) s ↔
      Meets E ok (fun s e => match e with
        | .reported e => Meets E ok fail (handle e) s
        | .aborted => fail s .aborted) x s := by
  refine Program.meets_bind.trans ⟨fun h => ?_, fun h => ?_⟩
  · exact Program.Meets.mono h fun s r hr => by
      rcases r with (e | _) | a <;> exact hr
  · exact Program.Meets.mono h fun s r hr => by
      rcases r with (e | _) | a <;> exact hr

@[simp] theorem meets_now {ok : σ → Int → Prop} :
    Meets E ok fail now s ↔
      E.permits s .clock ∧ ∀ m s', E.answers s .clock m s' → ok s' m.seconds := by
  unfold now
  rw [meets_bind, meets_step]
  exact Iff.rfl

@[simp] theorem meets_ofExcept {ε : Type} {failure : ε → ServiceError} {x : Except ε α} :
    Meets E ok fail (ofExcept failure x) s ↔
      (∀ a, x = .ok a → ok s a) ∧ ∀ e, x = .error e → fail s (.reported (failure e)) := by
  cases x with
  | ok a =>
    show ok s a ↔ _
    simp
  | error e =>
    show fail s (.reported (failure e)) ↔ _
    simp

@[simp] theorem meets_ofResult {ε : Type} {failure : ε → ServiceError}
    {x : Except (Failure ε) α} :
    Meets E ok fail (ofResult failure x) s ↔
      (∀ a, x = .ok a → ok s a) ∧ ∀ e, x = .error e → fail s (e.map failure) := by
  cases x with
  | ok a =>
    show ok s a ↔ _
    simp
  | error e =>
    show fail s (e.map failure) ↔ _
    simp

@[simp] theorem meets_require {condition : Bool} {failure : ServiceError}
    {ok : σ → Unit → Prop} :
    Meets E ok fail (require condition failure) s ↔
      (condition = true → ok s ()) ∧ (condition = false → fail s (.reported failure)) := by
  cases condition with
  | true =>
    show ok s () ↔ _
    simp
  | false =>
    show fail s (.reported failure) ↔ _
    simp

@[simp] theorem meets_expect {failure : ServiceError} {x : Option α} :
    Meets E ok fail (expect failure x) s ↔
      (∀ a, x = some a → ok s a) ∧ (x = none → fail s (.reported failure)) := by
  cases x with
  | some a =>
    show ok s a ↔ _
    simp
  | none =>
    show fail s (.reported failure) ↔ _
    simp

@[simp] theorem meets_issue {sign : Int → String → Except (Failure TokenError) IssuedToken}
    {ok : σ → IssuedToken → Prop} :
    Meets E ok fail (Service.issue sign) s ↔
      E.permits s .clock ∧ ∀ m s', E.answers s .clock m s' →
        E.permits s' .identifier ∧ ∀ jti s'', E.answers s' .identifier jti s'' →
          (∀ t, sign m.seconds jti = .ok t → ok s'' t) ∧
          ∀ e, sign m.seconds jti = .error e → fail s'' (e.map .ofToken) := by
  refine meets_bind.trans (meets_now.trans (and_congr_right fun _ => ?_))
  refine forall_congr' fun m => forall_congr' fun s' => imp_congr_right fun _ => ?_
  refine meets_bind.trans (meets_step.trans (and_congr_right fun _ => ?_))
  exact forall_congr' fun jti => forall_congr' fun s'' => imp_congr_right fun _ => meets_ofResult

@[simp] theorem meets_ask {ctx : RequestContext} {q : Query}
    {failure : StoreError → ServiceError} {ok : σ → q.Answer → Prop} :
    Meets E ok fail (ask ctx q failure) s ↔
      E.permits s (.query ctx q) ∧
        (∀ a s', E.answers s (.query ctx q) (.ok a) s' → ok s' a) ∧
        ∀ e s', E.answers s (.query ctx q) (.error e) s' → fail s' (.reported (failure e)) := by
  unfold ask
  rw [meets_bind, meets_step]
  refine and_congr_right fun _ => ?_
  constructor
  · intro h
    exact ⟨fun a s' hr => (meets_ofExcept.1 (h (.ok a) s' hr)).1 a rfl,
      fun e s' hr => (meets_ofExcept.1 (h (.error e) s' hr)).2 e rfl⟩
  · rintro ⟨hok, hfail⟩ r s' hr
    refine meets_ofExcept.2 ⟨?_, ?_⟩
    · rintro a rfl
      exact hok a s' hr
    · rintro e rfl
      exact hfail e s' hr

end Procedure

/-! ## The history of a program as its state -/

/-- A program that goes through the list of its own steps. It may take
the steps that `permits` holds of, and may rely on `relies`. -/
def Setting.history (permits : List Step → Effect → Prop) (relies : (e : Effect) → e.Reply → Prop) :
    Setting (List Step) where
  permits := permits
  answers h e r h' := relies e r ∧ h' = h ++ [⟨e, r⟩]

/-- The setting in which anything may be done, and anything may be the
answer. -/
def Setting.free : Setting (List Step) :=
  .history (fun _ _ => True) fun _ _ => True

namespace Procedure

variable {permits : List Step → Effect → Prop} {relies : (e : Effect) → e.Reply → Prop}
variable {fail : List Step → Failure ServiceError → Prop} {h : List Step}

theorem meets_history_step {e : Effect} {ok : List Step → e.Reply → Prop} (hpermits : permits h e)
    (hok : ∀ r, relies e r → ok (h ++ [⟨e, r⟩]) r) :
    Meets (.history permits relies) ok fail (step e) h := by
  refine meets_step.2 ⟨hpermits, ?_⟩
  rintro r _ ⟨hr, rfl⟩
  exact hok r hr

theorem meets_history_now {ok : List Step → Int → Prop} (hpermits : permits h .clock)
    (hok : ∀ m : Moment, relies .clock m → ok (h ++ [⟨.clock, m⟩]) m.seconds) :
    Meets (.history permits relies) ok fail now h := by
  refine meets_now.2 ⟨hpermits, ?_⟩
  rintro m _ ⟨hm, rfl⟩
  exact hok m hm

theorem meets_history_ask {ctx : RequestContext} {q : Query}
    {failure : StoreError → ServiceError} {ok : List Step → q.Answer → Prop}
    (hpermits : permits h (.query ctx q))
    (hok : ∀ a, relies (.query ctx q) (.ok a) → ok (h ++ [⟨.query ctx q, .ok a⟩]) a)
    (hfail : ∀ e, relies (.query ctx q) (.error e) →
      fail (h ++ [⟨.query ctx q, .error e⟩]) (.reported (failure e))) :
    Meets (.history permits relies) ok fail (ask ctx q failure) h := by
  refine meets_ask.2 ⟨hpermits, ?_, ?_⟩
  · rintro a _ ⟨hr, rfl⟩
    exact hok a hr
  · rintro e _ ⟨hr, rfl⟩
    exact hfail e hr

/-- Signing a token looks at the clock and draws an identifier. -/
theorem meets_history_issue {sign : Int → String → Except (Failure TokenError) IssuedToken}
    {ok : List Step → IssuedToken → Prop} (hclock : permits h .clock)
    (hidentifier : ∀ m, permits (h ++ [⟨.clock, m⟩]) .identifier)
    (hok : ∀ m jti t, sign m.seconds jti = .ok t →
      ok (h ++ [⟨.clock, m⟩] ++ [⟨.identifier, jti⟩]) t)
    (hfail : ∀ m jti e, relies .clock m → sign m.seconds jti = .error e →
      fail (h ++ [⟨.clock, m⟩] ++ [⟨.identifier, jti⟩]) (e.map .ofToken)) :
    Meets (.history permits relies) ok fail (Service.issue sign) h := by
  refine meets_issue.2 ⟨hclock, ?_⟩
  rintro m _ ⟨hm, rfl⟩
  refine ⟨hidentifier m, ?_⟩
  rintro jti _ ⟨-, rfl⟩
  exact ⟨hok m jti, fun e he => hfail m jti e hm he⟩

end Procedure

namespace Pool

variable {α : Type} {q : Pool α} {t : Turn} {tr : Transition} {l : List Transition} {i : Nat}
variable {permits : List Step → Effect → Prop} {relies : (e : Effect) → e.Reply → Prop}
variable {Q : List Step → α → Prop} {prog : Program α}

/-- A step that is taken is permitted. -/
theorem permits_of_transition? (h : q.transition? t = some tr)
    (hprog : q.programs[tr.program]? = some prog)
    (hmeets : prog.Meets (.history permits relies) Q (stepsOf tr.program l)) :
    permits (stepsOf tr.program l) tr.effect := by
  obtain ⟨-, -, -, next, hnext, -⟩ := advance_of_transition? h
  obtain rfl := Option.some.inj (hprog.symm.trans hnext)
  exact hmeets.1

/-- **A program goes on meeting its condition**, as long as it gets what
it relies on. -/
theorem meets_advance (h : q.transition? t = some tr) (hprog : q.programs[i]? = some prog)
    (hmeets : prog.Meets (.history permits relies) Q (stepsOf i l))
    (hrelies : tr.program = i → relies tr.effect tr.reply) :
    ∃ prog', (q.advance t).programs[i]? = some prog' ∧
      prog'.Meets (.history permits relies) Q (stepsOf i (l ++ [tr])) := by
  obtain ⟨-, -, -, next, hnext, hadvance⟩ := advance_of_transition? h
  rw [hadvance]
  by_cases hi : tr.program = i
  · subst hi
    obtain rfl := Option.some.inj (hprog.symm.trans hnext)
    obtain ⟨hlt, -⟩ := List.getElem?_eq_some_iff.1 hnext
    refine ⟨next tr.reply, List.getElem?_set_self hlt, ?_⟩
    rw [stepsOf_concat_self]
    exact hmeets.2 tr.reply _ ⟨hrelies rfl, rfl⟩
  · refine ⟨prog, (List.getElem?_set_ne hi).trans hprog, ?_⟩
    rwa [stepsOf_concat_of_ne hi]

/-- **A program meets its condition along a run**, if it gets there what
it relies on. -/
theorem meets_run_of_relies (turns : List Turn) (hprog : q.programs[i]? = some prog)
    (hmeets : prog.Meets (.history permits relies) Q (stepsOf i l))
    (hrelies : ∀ t ∈ q.trace turns, t.program = i → relies t.effect t.reply) :
    ∃ prog', (q.run turns).programs[i]? = some prog' ∧
      prog'.Meets (.history permits relies) Q (stepsOf i (l ++ q.trace turns)) := by
  refine run_induction (I := fun l' q' => (∀ t ∈ l', t.program = i → relies t.effect t.reply) →
    ∃ prog', q'.programs[i]? = some prog' ∧
      prog'.Meets (.history permits relies) Q (stepsOf i (l ++ l'))) ?_ ?_ turns hrelies
  · rw [List.append_nil]
    exact fun _ => ⟨prog, hprog, hmeets⟩
  · intro l' q' t tr ih htr hrelies
    obtain ⟨prog', hprog', hmeets'⟩ := ih fun t' ht' => hrelies t' (List.mem_append_left _ ht')
    rw [← List.append_assoc]
    exact meets_advance htr hprog' hmeets' (hrelies tr (by simp))

/-- A program that relies on nothing meets its condition along any run. -/
theorem meets_run (turns : List Turn) (hprog : q.programs[i]? = some prog)
    (hmeets : prog.Meets (.history permits fun _ _ => True) Q []) :
    ∃ prog', (q.run turns).programs[i]? = some prog' ∧
      prog'.Meets (.history permits fun _ _ => True) Q (stepsOf i (q.trace turns)) :=
  meets_run_of_relies (l := []) turns hprog hmeets fun _ _ _ => trivial

/-- **Every step of a run is permitted**, by what its program has done
before. -/
theorem permits_run {turns : List Turn} {l₁ l₂ : List Transition}
    (hprog : q.programs[tr.program]? = some prog)
    (hmeets : prog.Meets (.history permits fun _ _ => True) Q [])
    (htrace : q.trace turns = l₁ ++ tr :: l₂) : permits (stepsOf tr.program l₁) tr.effect := by
  obtain ⟨turns₁, turns₂, rfl, rfl, htail⟩ := exists_of_trace_eq_append htrace
  obtain ⟨t, -, htr, -⟩ := exists_of_trace_eq_cons htail
  obtain ⟨prog', hprog', hmeets'⟩ := meets_run turns₁ hprog hmeets
  exact permits_of_transition? htr hprog' hmeets'

end Pool

/-! ## The steps that a procedure uses -/

/-- The setting in which nothing is known, and some steps are
permitted. -/
def Setting.only (P : Effect → Prop) : Setting Unit where
  permits _ e := P e
  answers _ _ _ _ := True

namespace Procedure

variable {α β : Type} {P P' : Effect → Prop}

/-- A procedure whose steps all have a property. -/
def Uses (P : Effect → Prop) (x : Procedure α) : Prop :=
  Meets (.only P) (fun _ _ => True) (fun _ _ => True) x ()

/-- What a procedure keeps, by the steps that it uses, in a setting that
permits them. -/
theorem Uses.meets {σ : Type} {E : Setting σ} {I : σ → Prop} {x : Procedure α} (hx : x.Uses P)
    (hpermits : ∀ s e, I s → P e → E.permits s e)
    (hanswers : ∀ s e r s', I s → P e → E.answers s e r s' → I s') {s : σ} (hs : I s) :
    Meets E (fun s _ => I s) (fun s _ => I s) x s := by
  -- by induction on the program, for all states that it can go on in
  have hprogram (p : Program (Except (Failure ServiceError) α)) : ∀ {s : σ}, I s →
      p.Meets (.only P) (fun _ r => match r with
        | .ok _ => True
        | .error _ => True) () →
      p.Meets E (fun s r => match r with
        | .ok _ => I s
        | .error _ => I s) s := by
    induction p with
    | done r =>
      intro s hs _
      cases r <;> exact hs
    | await e next ih =>
      rintro s hs ⟨he, hnext⟩
      exact ⟨hpermits s e hs he, fun r s' hr =>
        ih r (hanswers s e r s' hs he hr) (hnext r () trivial)⟩
  exact hprogram x.run hs hx

theorem Uses.mono {x : Procedure α} (hx : x.Uses P) (h : ∀ e, P e → P' e) : x.Uses P' :=
  hx.meets (E := .only P') (I := fun _ => True) (fun _ e _ he => h e he)
    (fun _ _ _ _ _ _ _ => trivial) trivial

theorem uses_pure (a : α) : Uses P (pure a) := trivial

theorem uses_report (e : ServiceError) : Uses P (report e : Procedure α) := trivial

theorem Uses.bind {x : Procedure α} {f : α → Procedure β} (hx : x.Uses P)
    (hf : ∀ a, (f a).Uses P) : (x >>= f).Uses P :=
  meets_bind.2 (Meets.mono hx (fun _ a _ => hf a) fun _ _ h => h)

theorem Uses.map {x : Procedure α} (hx : x.Uses P) (f : α → β) : (f <$> x).Uses P :=
  meets_map.2 hx

theorem Uses.recover {x : Procedure α} {handle : ServiceError → Procedure α} (hx : x.Uses P)
    (hhandle : ∀ e, (handle e).Uses P) : Uses P (recover x handle) := by
  refine meets_recover.2 (Meets.mono hx (fun _ _ h => h) fun _ e _ => ?_)
  cases e with
  | reported e => exact hhandle e
  | aborted => trivial

theorem uses_step {e : Effect} (h : P e) : Uses P (step e) :=
  meets_step.2 ⟨h, fun _ _ _ => trivial⟩

theorem uses_now (h : P .clock) : Uses P now :=
  (uses_step h).bind fun _ => uses_pure _

theorem uses_ofExcept {ε : Type} (failure : ε → ServiceError) (x : Except ε α) :
    Uses P (ofExcept failure x) := by
  cases x <;> trivial

theorem uses_ofResult {ε : Type} (failure : ε → ServiceError) (x : Except (Failure ε) α) :
    Uses P (ofResult failure x) := by
  cases x <;> trivial

theorem uses_require (condition : Bool) (failure : ServiceError) :
    Uses P (require condition failure) := by
  cases condition <;> trivial

theorem uses_expect (failure : ServiceError) (x : Option α) : Uses P (expect failure x) := by
  cases x <;> trivial

theorem uses_ask {ctx : RequestContext} {q : Query} (h : P (.query ctx q))
    (failure : StoreError → ServiceError) : Uses P (ask ctx q failure) :=
  (uses_step h).bind fun _ => uses_ofExcept _ _

end Procedure

/-! ## The steps that a program has left -/

/-- A program that has only so many steps left. -/
def Setting.countdown : Setting Nat where
  permits n _ := 0 < n
  answers n _ _ n' := n = n' + 1

namespace Procedure

variable {α β : Type} {j k : Nat}

/-- A procedure that takes at most so many steps. -/
def Takes (k : Nat) (x : Procedure α) : Prop :=
  ∀ n, k ≤ n → Meets .countdown (fun n' _ => n ≤ n' + k) (fun _ _ => True) x n

theorem takes_pure (a : α) : Takes 0 (pure a) :=
  fun n _ => Nat.le_refl n

theorem takes_report (e : ServiceError) : Takes 0 (report e : Procedure α) :=
  fun _ _ => trivial

theorem Takes.mono {x : Procedure α} (hx : Takes j x) (hle : j ≤ k) : Takes k x :=
  fun n hn => Meets.mono (hx n (by omega)) (fun n' _ hn' => by omega) fun _ _ h => h

theorem takes_step (e : Effect) : Takes 1 (step e) :=
  fun _ hn => meets_step.2 ⟨hn, fun _ _ hn' => Nat.le_of_eq hn'⟩

/-- **One procedure after another** takes the steps of both. -/
theorem Takes.bind {x : Procedure α} {f : α → Procedure β} (hx : Takes j x)
    (hf : ∀ a, Takes k (f a)) : Takes (j + k) (x >>= f) := by
  intro n hn
  refine meets_bind.2 (Meets.mono (hx n (by omega)) (fun n' a hn' => ?_) fun _ _ h => h)
  refine Meets.mono (hf a n' (by omega)) (fun n'' b hn'' => ?_) fun _ _ h => h
  omega

theorem Takes.map {x : Procedure α} (hx : Takes k x) (f : α → β) : Takes k (f <$> x) :=
  fun n hn => meets_map.2 (hx n hn)

theorem takes_now : Takes 1 now :=
  (takes_step .clock).bind fun _ => takes_pure _

theorem takes_ofExcept {ε : Type} (failure : ε → ServiceError) (x : Except ε α) :
    Takes 0 (ofExcept failure x) :=
  fun n _ => meets_ofExcept.2 ⟨fun _ _ => Nat.le_refl n, fun _ _ => trivial⟩

theorem takes_ofResult {ε : Type} (failure : ε → ServiceError) (x : Except (Failure ε) α) :
    Takes 0 (ofResult failure x) :=
  fun n _ => meets_ofResult.2 ⟨fun _ _ => Nat.le_refl n, fun _ _ => trivial⟩

theorem takes_require (condition : Bool) (failure : ServiceError) :
    Takes 0 (require condition failure) :=
  fun n _ => meets_require.2 ⟨fun _ => Nat.le_refl n, fun _ => trivial⟩

theorem takes_expect (failure : ServiceError) (x : Option α) : Takes 0 (expect failure x) :=
  fun n _ => meets_expect.2 ⟨fun _ _ => Nat.le_refl n, fun _ => trivial⟩

theorem takes_ask (ctx : RequestContext) (q : Query) (failure : StoreError → ServiceError) :
    Takes 1 (ask ctx q failure) :=
  (takes_step _).bind fun _ => takes_ofExcept _ _

end Procedure

namespace Pool

variable {α : Type} {p : Pool α} {prog : Program α} {i n : Nat}

/-- A turn of a program takes one of its steps, if it has any left. -/
theorem countdown_advance (t : Turn) (hprog : p.programs[i]? = some prog)
    (hmeets : prog.Meets .countdown (fun _ _ => True) n) :
    ∃ prog', (p.advance t).programs[i]? = some prog' ∧
      prog'.Meets .countdown (fun _ _ => True) (n - if t.program = i then 1 else 0) := by
  by_cases hi : t.program = i
  · subst hi
    match prog, hmeets with
    | .done a, _ =>
      have hnone : p.transition? t = none := by
        unfold transition?
        rw [hprog]
      exact ⟨.done a, by rw [advance_of_none hnone, hprog], trivial⟩
    | .await e next, hmeets =>
      obtain ⟨-, -, hnext⟩ := advance_of_await hprog t.draw
      have hleft : 0 < n := hmeets.1
      refine ⟨_, hnext, hmeets.2 _ _ ?_⟩
      show n = n - (if t.program = t.program then 1 else 0) + 1
      rw [if_pos rfl]
      omega
  · refine ⟨prog, ?_, by rwa [if_neg hi]⟩
    cases htr : p.transition? t with
    | none => rw [advance_of_none htr, hprog]
    | some tr =>
      obtain ⟨hprogram, -, -, next, -, hadvance⟩ := advance_of_transition? htr
      rw [hadvance]
      exact (List.getElem?_set_ne fun heq => hi (hprogram.symm.trans heq)).trans hprog

/-- **A program is done** after as many turns as it has steps left,
whatever happens in between. -/
theorem done_of_countdown (turns : List Turn) (hprog : p.programs[i]? = some prog)
    (hmeets : prog.Meets .countdown (fun _ _ => True) n)
    (hcount : n ≤ turns.countP fun t => t.program = i) :
    ∃ a, (p.run turns).programs[i]? = some (.done a) := by
  induction turns generalizing p prog n with
  | nil =>
    match prog, hmeets with
    | .done a, _ => exact ⟨a, hprog⟩
    | .await e next, hmeets =>
      have hleft : 0 < n := hmeets.1
      simp at hcount
      omega
  | cons t turns ih =>
    obtain ⟨prog', hprog', hmeets'⟩ := countdown_advance t hprog hmeets
    refine ih hprog' hmeets' ?_
    rw [List.countP_cons] at hcount
    simp only [decide_eq_true_eq] at hcount
    omega

end Pool

end SignOn
