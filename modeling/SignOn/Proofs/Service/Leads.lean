import SignOn.Proofs.Service.InTurn
import SignOn.Proofs.Service.Alone
/-!
# From world to world

The steps of a run form a chain: each finds the world that the one before
has left. `Leads` is this, for programs at once and for a program by
itself, and what a store or an outbox has become along a chain is told by
its steps. `Leads.exists_since` follows one account.
-/

namespace SignOn

/-- Steps that lead from one world to another. -/
def Leads : World → List Transition → World → Prop
  | w, [], w' => w' = w
  | w, t :: l, w' => t.before = w ∧ Leads t.after l w'

variable {w w' : World} {l l' l₁ l₂ l₃ : List Transition} {t t' : Transition}

theorem leads_append : Leads w (l ++ l') w' ↔ ∃ v, Leads w l v ∧ Leads v l' w' := by
  induction l generalizing w with
  | nil => simp [Leads]
  | cons t l ih => simp [Leads, ih, and_assoc]

/-- A step stands between the steps before it and those after it. -/
theorem Leads.split (h : Leads w (l₁ ++ t :: l₂) w') :
    Leads w l₁ t.before ∧ Leads t.after l₂ w' := by
  obtain ⟨v, hv, rfl, htail⟩ := leads_append.1 h
  exact ⟨hv, htail⟩

/-- So do the steps between two steps. -/
theorem Leads.between (h : Leads w (l₁ ++ t :: (l₂ ++ t' :: l₃)) w') :
    Leads t.after l₂ t'.before :=
  h.split.2.split.1

theorem Leads.split_of_mem (h : Leads w l w') (ht : t ∈ l) :
    ∃ l₁ l₂, l = l₁ ++ t :: l₂ ∧ Leads w l₁ t.before ∧ Leads t.after l₂ w' := by
  obtain ⟨l₁, l₂, rfl⟩ := List.append_of_mem ht
  exact ⟨l₁, l₂, rfl, h.split⟩

/-- Of two different entries of a list one comes before the other. -/
theorem exists_between_of_ne {α : Type} {l : List α} {x y : α} (hx : x ∈ l) (hy : y ∈ l)
    (hne : x ≠ y) :
    ∃ l₁ l₂ l₃, l = l₁ ++ x :: (l₂ ++ y :: l₃) ∨ l = l₁ ++ y :: (l₂ ++ x :: l₃) := by
  obtain ⟨l₁, l₂, rfl⟩ := List.append_of_mem hx
  rcases List.mem_append.1 hy with hy | hy
  · obtain ⟨k₁, k₂, rfl⟩ := List.append_of_mem hy
    exact ⟨k₁, k₂, l₂, .inr (by simp)⟩
  · rcases List.mem_cons.1 hy with rfl | hy
    · exact absurd rfl hne
    · obtain ⟨k₁, k₂, rfl⟩ := List.append_of_mem hy
      exact ⟨l₁, k₁, k₂, .inl rfl⟩

/-- **What every step of a chain keeps** is kept by the chain. -/
theorem Leads.keeps {I : World → Prop} (h : Leads w l w') (hw : I w)
    (hstep : ∀ t ∈ l, I t.before → I t.after) : I w' := by
  induction l generalizing w with
  | nil => exact h ▸ hw
  | cons t l ih =>
    obtain ⟨rfl, htail⟩ := h
    exact ih htail (hstep t List.mem_cons_self hw)
      fun t' ht' => hstep t' (List.mem_cons_of_mem _ ht')

/-! ## Runs are chains -/

/-- **The steps of a run lead to where it ends.** -/
theorem Pool.leads_trace {α : Type} (p : Pool α) (turns : List Turn) :
    Leads p.world (p.trace turns) (p.run turns).world := by
  refine Pool.run_induction (I := fun l q => Leads p.world l q.world) rfl ?_ turns
  intro l q t tr ih htr
  obtain ⟨-, -, hbefore, next, -, hadvance⟩ := advance_of_transition? htr
  rw [hadvance]
  exact leads_append.2 ⟨q.world, ih, hbefore, rfl⟩

/-- An errand is a run of one request, in the world that it finds. -/
theorem Service.exists_turns_carryOut (s : Service) (w : World) (e : Errand) :
    ∃ turns, (s.start w [e.request]).run turns =
        ⟨(s.carryOut w e).world, [.done (s.carryOut w e).result]⟩ ∧
      (s.start w [e.request]).trace turns = s.stepsTaken w e := by
  obtain ⟨turns, hrun, htrace⟩ := Pool.exists_turns e.draws (n := 0) (i := 0)
    (q := s.start w [e.request]) (p := (s.perform e.ctx e.operation).run) rfl
  refine ⟨turns, hrun, htrace.trans ?_⟩
  -- the steps of a program by itself are those of the first one
  have hsame (p : Program (Except (Failure ServiceError) Answer)) (n : Nat) (v : World) :
      (p.trace e.draws n v).map (fun t => t.takenBy 0) = p.trace e.draws n v := by
    induction p generalizing n v with
    | done a => rfl
    | await eff next ih => exact congrArg (List.cons _) (ih _ _ _)
  exact hsame _ 0 w

/-- The steps of an errand lead to where it ends. -/
theorem Service.leads_carryOut (s : Service) (w : World) (e : Errand) :
    Leads w (s.stepsTaken w e) (s.carryOut w e).world := by
  obtain ⟨turns, hrun, htrace⟩ := s.exists_turns_carryOut w e
  have hleads := Pool.leads_trace (s.start w [e.request]) turns
  rwa [hrun, htrace] at hleads

/-- So do those of several. -/
theorem Service.exists_leads_after (s : Service) (w : World) (es : List Errand) :
    ∃ l, Leads w l (s.after w es) := by
  induction es generalizing w with
  | nil => exact ⟨[], rfl⟩
  | cons e es ih =>
    obtain ⟨l, hl⟩ := ih (s.carryOut w e).world
    exact ⟨s.stepsTaken w e ++ l, leads_append.2 ⟨_, s.leads_carryOut w e, hl⟩⟩

/-! ## The accounts along a chain -/

theorem Leads.accountsRemain (h : Leads w l w') : w.store.AccountsRemain w'.store := by
  refine h.keeps (I := fun v => w.store.AccountsRemain v.store) (.refl _) fun t _ hv => ?_
  rcases t.store_cases with ⟨hsame, -⟩ | ⟨q, x, -, hrun⟩
  · rwa [hsame]
  · exact hv.trans (Store.accountsRemain_of_run hrun)

/-- The accounts that a step found are there at the end. -/
theorem Leads.accountsRemain_of_mem (h : Leads w l w') (ht : t ∈ l) :
    t.before.store.AccountsRemain w'.store := by
  obtain ⟨l₁, l₂, rfl, -, hafter⟩ := h.split_of_mem ht
  exact Leads.accountsRemain (l := t :: l₂) ⟨rfl, hafter⟩

theorem Leads.accountsInOrder (h : Leads w l w') (hw : w.store.AccountsInOrder) :
    w'.store.AccountsInOrder := by
  refine h.keeps (I := fun v => v.store.AccountsInOrder) hw fun t _ hv => ?_
  rcases t.store_cases with ⟨hsame, -⟩ | ⟨q, x, -, hrun⟩
  · rwa [hsame]
  · exact hv.run hrun

/-- **No account is lost along a chain**, and none changes its place. -/
theorem Leads.origins_prefix (h : Leads w l w') :
    w.store.accounts.map Account.origin <+: w'.store.accounts.map Account.origin := by
  refine h.keeps (I := fun v => w.store.accounts.map Account.origin <+:
    v.store.accounts.map Account.origin) (List.prefix_refl _) fun t _ hv => ?_
  rcases t.store_cases with ⟨hsame, -⟩ | ⟨q, x, -, hrun⟩
  · rwa [hsame]
  · exact hv.trans (Store.origins_prefix_of_run hrun)

/-- **The dates stay in order along a chain**, if the clock does not go
back. -/
theorem Leads.dated (h : Leads w l w') (hforward : ClockForward l) {now : Int}
    (hnow : ∀ t ∈ l, t.time ≤ now) (hw : w.store.Dated now)
    (hstart : ∀ t ∈ l, w.store.Dated t.time) :
    w'.store.Dated now := by
  induction l generalizing w with
  | nil => exact h ▸ hw
  | cons t l ih =>
    obtain ⟨rfl, htail⟩ := h
    obtain ⟨hlater, hforward⟩ := List.pairwise_cons.1 hforward
    have hdated : t.after.store.Dated t.time := by
      have hbefore := hstart t List.mem_cons_self
      rcases t.store_cases with ⟨hsame, -⟩ | ⟨q, x, -, hrun⟩
      · rwa [hsame]
      · exact hbefore.run hrun
    exact ih htail hforward (fun t' ht' => hnow t' (List.mem_cons_of_mem _ ht'))
      (hdated.mono (hnow t List.mem_cons_self)) fun t' ht' => hdated.mono (hlater t' ht')

/-- A step that wrote to the accounts. -/
def Transition.Wrote (t : Transition) : Prop :=
  ∃ q x, q.writes = true ∧ t.Answers q x

/-- **Steps that write nothing leave the accounts.** -/
theorem Leads.sameAccounts (h : Leads w l w') (hnone : ∀ t ∈ l, ¬ t.Wrote) :
    w.store.SameAccounts w'.store := by
  refine h.keeps (I := fun v => w.store.SameAccounts v.store) (.refl _) fun t ht hv => ?_
  rcases t.store_cases with ⟨hsame, -⟩ | ⟨q, x, hanswers, hrun⟩
  · rwa [hsame]
  · have hq : q.writes = false := Bool.eq_false_iff.2 fun hq => hnone t ht ⟨q, x, hq, hanswers⟩
    exact hv.trans (Store.sameAccounts_of_run hq hrun)

/-- What has become of an account after some steps. Whatever about it has
changed was changed by one of them. -/
structure Account.Since (l : List Transition) (a a' : Account) : Prop where
  remains : a.Remains a'
  displayName : a'.displayName = a.displayName ∨
    ∃ t ∈ l, ∃ patch, t.Answers (.updateProfile a.id patch) ()
  passwordHash : a'.passwordHash = a.passwordHash ∨
    ∃ t ∈ l, t.Answers (.setPassword a.id a'.passwordHash) ()

theorem Account.since_nil (a : Account) : a.Since [] a :=
  ⟨.refl a, .inl rfl, .inl rfl⟩

/-- One step more, at the beginning. -/
theorem Account.Since.cons {a a' : Account} {q : Query} {x : q.Answer} (hanswers : t.Answers q x)
    (h : (q.revise t.time a).Since l a') : a.Since (t :: l) a' where
  remains := Query.remains_revise.trans h.remains
  displayName := by
    rcases h.displayName with hname | ⟨t', ht', patch, hpatch⟩
    · rw [hname]
      refine (q.displayName_revise t.time a).imp_right ?_
      rintro ⟨patch, rfl⟩
      exact ⟨t, List.mem_cons_self, patch, hanswers⟩
    · exact .inr ⟨t', List.mem_cons_of_mem _ ht', patch, by rwa [Query.revise_id] at hpatch⟩
  passwordHash := by
    rcases h.passwordHash with hhash | ⟨t', ht', hset⟩
    · rw [hhash]
      refine (q.passwordHash_revise t.time a).imp_right ?_
      rintro ⟨hash, rfl, hhash⟩
      exact ⟨t, List.mem_cons_self, by rwa [hhash]⟩
    · exact .inr ⟨t', List.mem_cons_of_mem _ ht', by rwa [Query.revise_id] at hset⟩

/-- **What becomes of an account**: it is still there, and its name and its
password are what they were, unless one of the steps has changed them. -/
theorem Leads.exists_since (h : Leads w l w') {a : Account} (ha : a ∈ w.store.accounts) :
    ∃ a' ∈ w'.store.accounts, a.Since l a' := by
  induction l generalizing w a with
  | nil => exact ⟨a, h ▸ ha, a.since_nil⟩
  | cons t l ih =>
    obtain ⟨rfl, htail⟩ := h
    rcases t.store_cases with ⟨hsame, -⟩ | ⟨q, x, hanswers, hrun⟩
    · obtain ⟨a', ha', hremains, hname, hhash⟩ := ih htail (hsame ▸ ha)
      refine ⟨a', ha', hremains, hname.imp_right ?_, hhash.imp_right ?_⟩
      · rintro ⟨t', ht', hpatch⟩
        exact ⟨t', List.mem_cons_of_mem _ ht', hpatch⟩
      · rintro ⟨t', ht', hset⟩
        exact ⟨t', List.mem_cons_of_mem _ ht', hset⟩
    · obtain ⟨a', ha', hsince⟩ := ih htail (Store.revise_mem_of_run hrun ha)
      exact ⟨a', ha', hsince.cons hanswers⟩

/-- **Where an account comes from**: it was there, or one of the steps has
opened it. -/
theorem Leads.exists_opening (h : Leads w l w') {a' : Account} (ha' : a' ∈ w'.store.accounts) :
    (∃ a ∈ w.store.accounts, a.id = a'.id ∧ a.email = a'.email) ∨
      ∃ t ∈ l, ∃ new, new.email = a'.email ∧ t.Answers (.insertAccount new) a'.id := by
  induction l generalizing w with
  | nil => exact .inl ⟨a', h ▸ ha', rfl, rfl⟩
  | cons t l ih =>
    obtain ⟨rfl, htail⟩ := h
    rcases ih htail with ⟨a, ha, hid, hemail⟩ | ⟨t', ht', hopens⟩
    · rcases t.store_cases with ⟨hsame, -⟩ | ⟨q, x, hanswers, hrun⟩
      · exact .inl ⟨a, hsame ▸ ha, hid, hemail⟩
      · rcases Store.mem_accounts_of_run hrun ha with ⟨b, hb, rfl⟩ | hadded
        · rw [Query.revise_id] at hid
          rw [Query.revise_email] at hemail
          exact .inl ⟨b, hb, hid, hemail⟩
        · cases q with
          | insertAccount new =>
            obtain rfl := Option.some.inj hadded
            obtain ⟨-, rfl, -⟩ := Store.insertAccount_eq_ok_iff.1 hrun
            refine .inr ⟨t, List.mem_cons_self, new, hemail, ?_⟩
            rw [← hid]
            exact hanswers
          | _ => cases hadded
    · exact .inr ⟨t', List.mem_cons_of_mem _ ht', hopens⟩

/-- **Who is confirmed** was confirmed before, or one of the steps has
done it. -/
theorem Leads.confirmed_cases (h : Leads w l w') {u : Int} (hu : w'.store.Confirmed u) :
    w.store.Confirmed u ∨ ∃ t ∈ l, t.Answers (.confirmEmail u) () := by
  induction l generalizing w with
  | nil => exact .inl (h ▸ hu)
  | cons t l ih =>
    obtain ⟨rfl, htail⟩ := h
    rcases ih htail with hu | ⟨t', ht', hconfirms⟩
    · rcases t.store_cases with ⟨hsame, -⟩ | ⟨q, x, hanswers, hrun⟩
      · exact .inl (hsame ▸ hu)
      · rcases hu.of_run hrun with hu | rfl
        · exact .inl hu
        · exact .inr ⟨t, List.mem_cons_self, hanswers⟩
    · exact .inr ⟨t', List.mem_cons_of_mem _ ht', hconfirms⟩

/-! ## What was published along a chain -/

/-- A step publishes what it asks to publish, or leaves the outbox. -/
theorem Transition.outbox_cases (t : Transition) : t.after.outbox = t.before.outbox ∨
    ∃ ctx p, t.effect = .publish ctx p.subject p.payload ∧
      t.after.outbox = { t.before.outbox with published := t.before.outbox.published ++ [p] } := by
  obtain ⟨program, draw, before, effect⟩ := t
  cases effect with
  | query ctx q =>
    have hstep : step ⟨program, draw, before, .query ctx q⟩ = ⟨.query ctx q, _⟩ := rfl
    exact .inl (query_cases hstep).1
  | publish ctx subject payload =>
    obtain ⟨-, ⟨-, -, houtbox⟩ | ⟨-, houtbox⟩⟩ :=
      publish_cases (t := ⟨program, draw, before, .publish ctx subject payload⟩) rfl
    · exact .inl houtbox
    · exact .inr ⟨ctx, ⟨subject, payload⟩, rfl, houtbox⟩
  | _ => exact .inl rfl

/-- **What is published stays published**, and what comes to it comes from
the steps. -/
theorem Leads.exists_published (h : Leads w l w') :
    ∃ new, w'.outbox = { w.outbox with published := w.outbox.published ++ new } ∧
      ∀ p ∈ new, ∃ t ∈ l, ∃ ctx, t.effect = .publish ctx p.subject p.payload := by
  induction l generalizing w with
  | nil => exact ⟨[], by rw [h, List.append_nil], by simp⟩
  | cons t l ih =>
    obtain ⟨rfl, htail⟩ := h
    obtain ⟨new, heq, hnew⟩ := ih htail
    have hlater :
        ∀ p ∈ new, ∃ t' ∈ t :: l, ∃ ctx, t'.effect = .publish ctx p.subject p.payload := by
      intro p hp
      obtain ⟨t', ht', hpublishes⟩ := hnew p hp
      exact ⟨t', List.mem_cons_of_mem _ ht', hpublishes⟩
    rcases t.outbox_cases with hsame | ⟨ctx, p, heffect, houtbox⟩
    · exact ⟨new, by rw [heq, hsame], hlater⟩
    · refine ⟨p :: new, by rw [heq, houtbox, List.append_assoc]; rfl, ?_⟩
      exact List.forall_mem_cons.2 ⟨⟨t, List.mem_cons_self, ctx, heffect⟩, hlater⟩

end SignOn
