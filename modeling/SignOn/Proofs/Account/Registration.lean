import SignOn.Proofs.Account.Conduct
import SignOn.Proofs.Session.Admission
import SignOn.Proofs.Session.Spent
/-!
# Registrations that race

A registration looks for its address first, and opens the account in a
step of its own. In between another one may open an account with the same
address, and then the store refuses: `Leads.insertAccount_ne`. So of any
number of registrations with one address, at once, exactly one succeeds,
and the others are told that the account exists,
`Service.registration_unique`.
-/

namespace SignOn

/-- Some account has an address. -/
def Store.Registered (s : Store) (email : String) : Prop :=
  ∃ a ∈ s.accounts, a.email = email

theorem Store.Registered.mono {s s' : Store} {email : String} (h : s.Registered email)
    (hremain : s.AccountsRemain s') : s'.Registered email := by
  obtain ⟨a, ha, rfl⟩ := h
  obtain ⟨a', ha', hremains⟩ := hremain a ha
  exact ⟨a', ha', hremains.email⟩

/-- **An address is given once**: who opens an account later opens it with
another one. -/
theorem Leads.insertAccount_ne {w w' : World} {l₁ l₂ l₃ : List Transition} {t t' : Transition}
    (h : Leads w (l₁ ++ t :: (l₂ ++ t' :: l₃)) w') {new new' : NewAccount} {id id' : Int}
    (ht : t.Answers (.insertAccount new) id) (ht' : t'.Answers (.insertAccount new') id') :
    new.email ≠ new'.email := by
  obtain ⟨-, -, hafter⟩ := Store.insertAccount_eq_ok_iff.1 (Transition.run_of_answers ht)
  obtain ⟨hfree, -⟩ := Store.insertAccount_eq_ok_iff.1 (Transition.run_of_answers ht')
  have hregistered : t.after.store.Registered new.email :=
    ⟨t.before.store.opened t.time new, by rw [hafter]; simp, rfl⟩
  obtain ⟨a, ha, hemail⟩ := hregistered.mono h.between.accountsRemain
  exact fun heq => hfree a ha (hemail.trans heq)

/-- So two steps that open accounts with one address are one step. -/
theorem Leads.eq_of_insertAccount {w w' : World} {l : List Transition} {t t' : Transition}
    (h : Leads w l w') (ht : t ∈ l) (ht' : t' ∈ l) {new new' : NewAccount} {id id' : Int}
    (hopens : t.Answers (.insertAccount new) id) (hopens' : t'.Answers (.insertAccount new') id')
    (hemail : new.email = new'.email) : t = t' := by
  by_contra hne
  obtain ⟨l₁, l₂, l₃, rfl | rfl⟩ := exists_between_of_ne ht ht' hne
  · exact h.insertAccount_ne hopens hopens' hemail
  · exact h.insertAccount_ne hopens' hopens hemail.symm

/-! ## A registration that nothing disturbs -/

/-- What a step tells a registration that nothing disturbs, where an
address that is not free is among those given, and a token that lives so
long expires within the 64-bit numbers. -/
structure Step.TellsOf (ttl : Int) (taken : String → Prop) (x : Step) : Prop where
  clock : ∀ m : Moment, x = ⟨.clock, m⟩ → Fits64 (m.seconds + ttl)
  deadline : ∀ ctx late, x = ⟨.deadline ctx, late⟩ → late = false
  found : ∀ ctx email a, x = ⟨.query ctx (.accountByEmail email), .ok a⟩ → taken email
  missed : ∀ ctx email e, x = ⟨.query ctx (.accountByEmail email), .error e⟩ →
    ∃ what, e = .notFound what
  refused : ∀ ctx new e, x = ⟨.query ctx (.insertAccount new), .error e⟩ →
    (∃ what, e = .conflict what) ∧ taken new.email

/-- The setting of such steps. -/
abbrev Setting.tellsOf (ttl : Int) (taken : String → Prop) : Setting (List Step) :=
  .history (fun _ _ => True) fun e r => Step.TellsOf ttl taken ⟨e, r⟩

/-- A step that nothing disturbs tells of addresses that are taken from
then on. -/
theorem Transition.Undisturbed.tellsOf {t : Transition} {l : List Transition} {w : World}
    {ttl : Int} (h : t.Undisturbed) (hfits : Fits64 (t.time + ttl)) (hafter : Leads t.after l w) :
    t.step.TellsOf ttl w.store.Registered where
  clock m hstep := by rwa [Transition.seconds_eq_time hstep]
  deadline _ _ := h.not_late
  found ctx email a hstep := by
    obtain ⟨hfound, hsame⟩ := Store.unchanged_eq_ok_iff.1
      (Transition.run_of_answers (q := .accountByEmail email) (x := a) ⟨ctx, hstep⟩)
    obtain ⟨ha, hemail⟩ := Store.mem_of_accountByEmail hfound
    rw [← hsame] at ha
    exact Store.Registered.mono ⟨a, ha, hemail⟩ hafter.accountsRemain
  missed ctx email e hstep := by
    have hmissed := Store.unchanged_eq_error_iff.1 (h.faultless.run_eq_error hstep)
    exact ⟨_, (Store.accountByEmail_eq_error_iff.1 hmissed).1⟩
  refused ctx new e hstep := by
    obtain ⟨rfl, hregistered⟩ :=
      Store.insertAccount_eq_error_iff.1 (h.faultless.run_eq_error hstep)
    refine ⟨⟨_, rfl⟩, Store.Registered.mono (s := t.before.store) hregistered ?_⟩
    have hstep' : Leads t.before (t :: l) w := ⟨rfl, hafter⟩
    exact hstep'.accountsRemain

namespace Service

open Procedure

variable {s : Service} {ctx : RequestContext} {input : Registration} {taken : String → Prop}

/-- **A registration fails only if the address is taken**, if it is in
order and nothing disturbs it. -/
theorem register_told (h : s.Acceptable input) :
    Meets (.tellsOf s.issuer.verifyEmailTtl taken) (fun _ _ => True)
      (fun _ e => e = .reported .accountExists ∧ taken input.email) (s.register ctx input) [] := by
  refine meets_bind.2 (meets_require.2 ⟨fun _ => ?_, by simp [h.email]⟩)
  refine meets_bind.2 (meets_require.2 ⟨fun _ => ?_, by simp [h.password]⟩)
  refine meets_bind.2 (meets_require.2 ⟨fun _ => ?_, by simp [h.displayName]⟩)
  -- the password is hashed
  refine meets_bind.2 (meets_bind.2 (meets_bind.2
    (meets_history_step trivial fun late hlate => ?_)))
  obtain rfl := hlate.deadline ctx late rfl
  refine meets_require.2 ⟨fun _ => ?_, by simp⟩
  refine meets_bind.2 (meets_history_step trivial fun salt _ => ?_)
  obtain ⟨hash, hhash⟩ := Password.exists_hash_eq_ok h.cost salt h.size
  rw [hhash]
  -- the address is looked for
  refine meets_bind.2 (meets_history_step trivial fun found hfound => ?_)
  match found with
  | .ok a => exact ⟨rfl, hfound.found _ _ _ rfl⟩
  | .error e =>
    obtain ⟨what, rfl⟩ := hfound.missed _ _ _ rfl
    refine meets_bind.2 (meets_history_ask trivial (fun id _ => ?_) fun e he => ?_)
    · -- from here on it succeeds, whether or not the event gets out
      have hinform (l : List Step) : Meets (.tellsOf s.issuer.verifyEmailTtl taken)
          (fun _ _ => True) (fun _ e => ∃ err, e = .reported err)
          (s.announceVerifyEmail ctx id) l :=
        announceVerifyEmail_reported (fun _ _ => trivial) fun _ m _ hm => hm.1.clock m rfl
      refine meets_bind.2 (meets_recover.2 ((hinform _).mono (fun _ _ _ => trivial)
        fun _ e he => ?_))
      obtain ⟨err, rfl⟩ := he
      exact trivial
    · obtain ⟨⟨what, rfl⟩, htaken⟩ := he.refused _ _ _ rfl
      exact ⟨rfl, htaken⟩

/-- **A registration is over after seven steps.** -/
theorem register_countdown (s : Service) (ctx : RequestContext) (input : Registration) :
    (s.perform ctx (.register input)).run.Meets .countdown (fun _ _ => True) 7 := by
  have hregister : Meets .countdown (fun _ _ => True) (fun _ _ => True)
      (s.register ctx input) 7 := by
    refine meets_bind.2 (meets_require.2 ⟨fun _ => ?_, fun _ => trivial⟩)
    refine meets_bind.2 (meets_require.2 ⟨fun _ => ?_, fun _ => trivial⟩)
    refine meets_bind.2 (meets_require.2 ⟨fun _ => ?_, fun _ => trivial⟩)
    refine meets_bind.2 ((s.takes_hashPassword ctx _ 7 (by omega)).mono (fun n₁ hash hn₁ => ?_)
      fun _ _ _ => trivial)
    refine meets_bind.2 ((takes_step _ n₁ (by omega)).mono (fun n₂ found hn₂ => ?_)
      fun _ _ _ => trivial)
    match found with
    | .ok a => trivial
    | .error (.io _) | .error (.connection _) | .error (.migration _) | .error (.query _)
    | .error (.conflict _) | .error .deadlineExceeded => trivial
    | .error (.notFound _) =>
      refine meets_bind.2 ((takes_ask _ _ _ n₂ (by omega)).mono (fun n₃ id hn₃ => ?_)
        fun _ _ _ => trivial)
      refine meets_bind.2 (meets_recover.2 ((s.takes_announceVerifyEmail ctx id n₃ (by omega)).mono
        (fun _ _ _ => trivial) fun _ e _ => ?_))
      cases e <;> trivial
  have hperform : Meets .countdown (fun _ _ => True) (fun _ _ => True)
      (s.perform ctx (.register input)) 7 := meets_map.2 hregister
  exact Program.Meets.mono hperform fun _ _ _ => trivial

/-! ## Registrations at once -/

variable {w : World} {requests : List Request} {before during turns : List Turn} {i : Nat}
variable {email : String} {group : List Nat}

/-- A registration that succeeded has opened an account. -/
theorem exists_opening_of_done (hrequest : requests[i]? = some ⟨ctx, .register input⟩) {a : Answer}
    (hdone : ((s.start w requests).run turns).programs[i]? = some (.done (.ok a))) :
    ∃ t ∈ (s.start w requests).trace turns, ∃ hash u, t.program = i ∧
      t.Answers (.insertAccount ⟨input.email, hash, input.displayName⟩) u ∧
      s.Hashes input.password hash ∧ a = .id u := by
  rcases ends_of_done hrequest hdone with
    ⟨hop, -⟩ | ⟨h₁, x, h₂, q, r, hsteps, hwrote, -, -, hmay, ha⟩
  · cases hop
  · have hx : x ∈ stepsOf i ((s.start w requests).trace turns) := by simp [hsteps]
    obtain ⟨t, ht, hi, rfl⟩ := mem_stepsOf.1 hx
    cases hmay with
    | register hhash => exact ⟨t, ht, _, r, hi, hwrote.2, hhash.hashes, ha⟩

/-- An account is opened by a registration that reports no failure. -/
theorem registration_of_opens {t : Transition} {new : NewAccount} {u : Int}
    (ht : t ∈ (s.start w requests).trace turns) (hopens : t.Answers (.insertAccount new) u) :
    ∃ ctx input, requests[t.program]? = some ⟨ctx, .register input⟩ ∧ input.email = new.email ∧
      ∀ e, ((s.start w requests).run turns).programs[t.program]? ≠
        some (.done (.error (.reported e))) := by
  obtain ⟨⟨ctx, op⟩, hrequest⟩ := exists_request ht
  have hwrote : t.step.Wrote (.insertAccount new) u := ⟨rfl, hopens⟩
  obtain ⟨l₁, l₂, htrace⟩ := List.append_of_mem ht
  obtain ⟨-, hmay⟩ := mayWrite_of_trace htrace hrequest hwrote
  cases hmay with
  | @register input _ _ _ =>
    refine ⟨ctx, input, hrequest, rfl, fun e hdone => ?_⟩
    have hunwritten : Unwritten _ := ends_of_done hrequest hdone
    exact hunwritten _ (mem_stepsOf.2 ⟨t, ht, rfl, rfl⟩) _ _ hwrote

/-- Registrations of one address that go on at once, and with no others of
that address: they are in order, they have not begun before, nothing
disturbs them, their tokens expire within the 64-bit numbers, and they
have all the turns that they need. -/
structure Contenders (s : Service) (w : World) (requests : List Request)
    (before during : List Turn) (email : String) (group : List Nat) : Prop where
  registers : ∀ i ∈ group, ∃ ctx input, requests[i]? = some ⟨ctx, .register input⟩ ∧
    input.email = email ∧ s.Acceptable input
  unbegun : ∀ t ∈ (s.start w requests).trace before, t.program ∉ group
  undisturbed : ∀ t ∈ ((s.start w requests).run before).trace during, t.program ∈ group →
    t.Undisturbed
  expires : ∀ t ∈ ((s.start w requests).run before).trace during, t.program ∈ group →
    Fits64 (t.time + s.issuer.verifyEmailTtl)
  alone : ∀ t ∈ ((s.start w requests).run before).trace during, ∀ ctx input,
    requests[t.program]? = some ⟨ctx, .register input⟩ → input.email = email → t.program ∈ group
  turns : ∀ i ∈ group, 7 ≤ during.countP fun t => t.program = i

/-- **Each is over**, and it has failed only if the address is taken. -/
theorem Contenders.outcome (h : s.Contenders w requests before during email group)
    (hi : i ∈ group) :
    ∃ r, ((s.start w requests).run (before ++ during)).programs[i]? = some (.done r) ∧
      ∀ e, r = .error e → e = .reported .accountExists ∧
        ((s.start w requests).run (before ++ during)).world.store.Registered email := by
  obtain ⟨ctx, input, hrequest, hemail, hacceptable⟩ := h.registers i hi
  let q := (s.start w requests).run before
  have hunbegun : ∀ t ∈ (s.start w requests).trace before, t.program ≠ i := by
    rintro t ht rfl
    exact h.unbegun t ht hi
  have hprog : q.programs[i]? = some (s.perform ctx (.register input)).run :=
    (Pool.getElem?_run_of_notMem before hunbegun).trans (s.start_getElem? w hrequest)
  rw [Pool.run_append]
  obtain ⟨r, hdone⟩ := Pool.done_of_countdown during hprog (s.register_countdown ctx input)
    (h.turns i hi)
  refine ⟨r, hdone, ?_⟩
  -- what its steps tell, as seen from the end of the run
  let final := (q.run during).world
  have hleads : Leads q.world (q.trace during) final := Pool.leads_trace q during
  have htold : ∀ t ∈ q.trace during, t.program = i →
      Step.TellsOf s.issuer.verifyEmailTtl final.store.Registered ⟨t.effect, t.reply⟩ := by
    rintro t ht rfl
    obtain ⟨l₁, l₂, -, -, hafter⟩ := hleads.split_of_mem ht
    exact (h.undisturbed t ht hi).tellsOf (h.expires t ht hi) hafter
  let tells := Setting.tellsOf s.issuer.verifyEmailTtl final.store.Registered
  have hmeets : (s.perform ctx (.register input)).run.Meets tells
      (fun _ r => ∀ e, r = .error e →
        e = .reported .accountExists ∧ final.store.Registered input.email) [] := by
    have hregister : Meets tells (fun _ _ => True)
        (fun _ e => e = .reported .accountExists ∧ final.store.Registered input.email)
        (s.perform ctx (.register input)) [] := meets_map.2 (register_told hacceptable)
    refine Program.Meets.mono hregister fun _ r hr e he => ?_
    subst he
    exact hr
  obtain ⟨prog, hprog', hmeets'⟩ := Pool.meets_run_of_relies (l := []) during hprog hmeets htold
  obtain rfl := Option.some.inj (hprog'.symm.trans hdone)
  rw [← hemail]
  exact hmeets'

/-- The account of a registration is there, with its name and its
password, unless one of the steps has changed them. -/
def Stands (input : Registration) (l : List Transition) (store : Store) (u : Int) : Prop :=
  ∃ a ∈ store.accounts, a.id = u ∧ a.email = input.email ∧
    (a.displayName = input.displayName ∨ ∃ t ∈ l, ∃ patch, t.Answers (.updateProfile u patch) ()) ∧
    (Password.verify input.password a.passwordHash = true ∨
      ∃ t ∈ l, ∃ hash, t.Answers (.setPassword u hash) ())

/-- The account that a step has opened stands. -/
theorem stands_of_opens {l : List Transition} {w w' : World} (hleads : Leads w l w')
    {t : Transition} (ht : t ∈ l) {hash : String} {u : Int}
    (hopens : t.Answers (.insertAccount ⟨input.email, hash, input.displayName⟩) u)
    (hhash : s.Hashes input.password hash) : Stands input l w'.store u := by
  obtain ⟨l₁, l₂, rfl, -, hafter⟩ := hleads.split_of_mem ht
  obtain ⟨-, rfl, heq⟩ := Store.insertAccount_eq_ok_iff.1 (Transition.run_of_answers hopens)
  let a := t.before.store.opened t.time ⟨input.email, hash, input.displayName⟩
  have ha : a ∈ t.after.store.accounts := by
    rw [heq]
    exact List.mem_append_right _ (List.mem_singleton_self a)
  obtain ⟨salt, hhash⟩ := hhash
  obtain ⟨a', ha', hremains, hname, hpassword⟩ := hafter.exists_since ha
  have hlater {t' : Transition} (ht' : t' ∈ l₂) : t' ∈ l₁ ++ t :: l₂ := by simp [ht']
  refine ⟨a', ha', hremains.id, hremains.email, hname.imp_right ?_, hpassword.imp ?_ ?_⟩
  · rintro ⟨t', ht', patch, hpatch⟩
    exact ⟨t', hlater ht', patch, hpatch⟩
  · intro heq
    rw [heq]
    exact Password.verify_of_hash hhash
  · rintro ⟨t', ht', hset⟩
    exact ⟨t', hlater ht', _, hset⟩

/-- Where contenders are, a step of theirs is one of those at the end. -/
theorem Contenders.mem_during (h : s.Contenders w requests before during email group)
    {t : Transition} (ht : t ∈ (s.start w requests).trace (before ++ during))
    (hi : t.program ∈ group) :
    t ∈ ((s.start w requests).run before).trace during := by
  rw [Pool.trace_append] at ht
  exact (List.mem_append.1 ht).resolve_left fun hbefore => h.unbegun t hbefore hi

/-- **One of them succeeds**: the address is taken in the end, by a
registration, and that is one of them. -/
theorem Contenders.exists_winner (h : s.Contenders w requests before during email group)
    (hne : group ≠ []) (hfree : ¬ ((s.start w requests).run before).world.store.Registered email) :
    ∃ i ∈ group, ∃ a, ((s.start w requests).run (before ++ during)).programs[i]? =
      some (.done (.ok a)) := by
  obtain ⟨i, hi⟩ := List.exists_mem_of_ne_nil group hne
  obtain ⟨r, hdone, hfail⟩ := h.outcome hi
  cases r with
  | ok a => exact ⟨i, hi, a, hdone⟩
  | error e =>
    obtain ⟨-, a', ha', hemail⟩ := hfail e rfl
    have hleads := Pool.leads_trace ((s.start w requests).run before) during
    rw [Pool.run_append] at ha'
    rcases hleads.exists_opening ha' with ⟨a, ha, -, hsame⟩ | ⟨t, ht, new, hnew, hopens⟩
    · exact absurd ⟨a, ha, hsame.trans hemail⟩ hfree
    · have ht' : t ∈ (s.start w requests).trace (before ++ during) := by
        rw [Pool.trace_append]
        exact List.mem_append_right _ ht
      obtain ⟨ctx, input, hrequest, hinput, hnot⟩ := registration_of_opens ht' hopens
      have hmem := h.alone t ht ctx input hrequest (hinput.trans (hnew.trans hemail))
      obtain ⟨r', hdone', hfail'⟩ := h.outcome hmem
      cases r' with
      | ok a => exact ⟨t.program, hmem, a, hdone'⟩
      | error e' =>
        obtain ⟨rfl, -⟩ := hfail' e' rfl
        exact absurd hdone' (hnot _)

/-- **No two of them succeed.** -/
theorem Contenders.eq_of_done (h : s.Contenders w requests before during email group) {i j : Nat}
    (hi : i ∈ group) (hj : j ∈ group) {a b : Answer}
    (hdone : ((s.start w requests).run (before ++ during)).programs[i]? = some (.done (.ok a)))
    (hdone' : ((s.start w requests).run (before ++ during)).programs[j]? = some (.done (.ok b))) :
    i = j := by
  obtain ⟨ctx, input, hrequest, hemail, -⟩ := h.registers i hi
  obtain ⟨ctx', input', hrequest', hemail', -⟩ := h.registers j hj
  obtain ⟨t, ht, hash, u, rfl, hopens, -, -⟩ := exists_opening_of_done hrequest hdone
  obtain ⟨t', ht', hash', u', rfl, hopens', -, -⟩ := exists_opening_of_done hrequest' hdone'
  have hleads := Pool.leads_trace (s.start w requests) (before ++ during)
  rw [hleads.eq_of_insertAccount ht ht' hopens hopens' (hemail.trans hemail'.symm)]

/-- **An address is registered once.** At every moment of any run, however
the operations interleave and whatever they meet, ids are positive and
count up in the order of insertion, no two accounts have one address, no
account has been lost, and under a clock that does not go back every
account was opened before it was changed last. And of any number of
registrations of a free address that go on at once and that nothing
disturbs, with tokens that expire within the 64-bit numbers, exactly one
succeeds; the account has its name and its password,
unless they have been changed since; and the others are told that the
account exists. -/
theorem registration_unique (s : Service) {w : World} (hw : w.store = .empty)
    (requests : List Request) (before during : List Turn) :
    ((s.start w requests).run before).world.store.AccountsInOrder ∧
    (ClockForward ((s.start w requests).trace before) →
      ∀ now, (∀ t ∈ (s.start w requests).trace before, t.time ≤ now) →
        ((s.start w requests).run before).world.store.Dated now) ∧
    ((s.start w requests).run before).world.store.accounts.map Account.origin <+:
      ((s.start w requests).run (before ++ during)).world.store.accounts.map Account.origin ∧
    ∀ email group, group ≠ [] → s.Contenders w requests before during email group →
      ¬ ((s.start w requests).run before).world.store.Registered email →
      ∃ i ∈ group, ∃ ctx input u, requests[i]? = some ⟨ctx, .register input⟩ ∧
        ((s.start w requests).run (before ++ during)).programs[i]? = some (.done (.ok (.id u))) ∧
        Stands input (((s.start w requests).run before).trace during)
          ((s.start w requests).run (before ++ during)).world.store u ∧
        ∀ j ∈ group, j ≠ i →
          ((s.start w requests).run (before ++ during)).programs[j]? =
            some (.done (.error (.reported .accountExists))) := by
  have hbefore := Pool.leads_trace (s.start w requests) before
  have hduring := Pool.leads_trace ((s.start w requests).run before) during
  have hempty : (s.start w requests).world.store = .empty := hw
  have hdated (now : Int) : (s.start w requests).world.store.Dated now := by
    rw [hempty]
    simp [Store.Dated, Store.empty]
  refine ⟨hbefore.accountsInOrder (hempty ▸ Store.accountsInOrder_empty),
    fun hforward now hnow => ?_, ?_, fun email group hne hgroup hfree => ?_⟩
  · exact hbefore.dated hforward hnow (hdated now) fun t _ => hdated t.time
  · rw [Pool.run_append]
    exact hduring.origins_prefix
  · obtain ⟨i, hi, a, hdone⟩ := hgroup.exists_winner hne hfree
    obtain ⟨ctx, input, hrequest, hemail, -⟩ := hgroup.registers i hi
    obtain ⟨t, ht, hash, u, rfl, hopens, hhash, rfl⟩ := exists_opening_of_done hrequest hdone
    refine ⟨t.program, hi, ctx, input, u, hrequest, hdone, ?_, fun j hj hne => ?_⟩
    · rw [Pool.run_append]
      exact stands_of_opens hduring (hgroup.mem_during ht hi) hopens hhash
    · obtain ⟨r, hdone', hfail⟩ := hgroup.outcome hj
      cases r with
      | ok b => exact absurd (hgroup.eq_of_done hj hi hdone' hdone) hne
      | error e =>
        obtain ⟨rfl, -⟩ := hfail e rfl
        exact hdone'

/-- Two registrations of one address that take their steps by turns: one
of them has it. -/
theorem registration_race_plain : ∃ requests turns email,
    (∀ i ∈ [0, 1], ∃ ctx input, requests[i]? = some ⟨ctx, .register input⟩ ∧ input.email = email) ∧
    ∃ i ∈ [0, 1],
      (∃ u, ((plain.start {} requests).run turns).programs[i]? = some (.done (.ok (.id u)))) ∧
      ∀ j ∈ [0, 1], j ≠ i →
        ((plain.start {} requests).run turns).programs[j]? =
          some (.done (.error (.reported .accountExists))) := by
  let first : Request := ⟨unhurried, .register ⟨"owner@example.org", "password", "Owner"⟩⟩
  let second : Request := ⟨unhurried, .register ⟨"owner@example.org", "secret", "Other"⟩⟩
  let requests := [first, second]
  let turns := (List.range 14).map fun n => (⟨n % 2, calmDraws 0 toString n .clock⟩ : Turn)
  have hsecond : plain.Acceptable ⟨"owner@example.org", "secret", "Other"⟩ :=
    ⟨rfl, rfl, rfl, by decide, by decide⟩
  have hregisters : ∀ i ∈ [0, 1], ∃ input, requests[i]? = some ⟨unhurried, .register input⟩ ∧
      input.email = "owner@example.org" ∧ plain.Acceptable input := by
    simp only [List.forall_mem_cons]
    exact ⟨⟨_, rfl, rfl, acceptable_plain⟩, ⟨_, rfl, rfl, hsecond⟩, by simp⟩
  have hsteps : ∀ t ∈ (plain.start {} requests).trace turns, t.program ∈ [0, 1] ∧
      t.Undisturbed ∧ t.time = 0 := by
    intro t ht
    obtain ⟨turn, hturn, hprogram, hdraw⟩ := Pool.mem_trace ht
    obtain ⟨n, -, rfl⟩ := List.mem_map.1 hturn
    have hmem : t.program ∈ [0, 1] := by
      rw [hprogram]
      have : n % 2 = 0 ∨ n % 2 = 1 := by omega
      simpa using this
    obtain ⟨input, hrequest, -⟩ := hregisters _ hmem
    exact ⟨hmem, undisturbed_of_trace ht hrequest rfl (by rw [hdraw]; rfl),
      by rw [Transition.time, hdraw]; rfl⟩
  have hcontenders : plain.Contenders {} requests [] turns "owner@example.org" [0, 1] :=
    ⟨fun i hi => ⟨unhurried, hregisters i hi⟩, by simp [Pool.trace],
      fun t ht _ => (hsteps t ht).2.1, fun t ht _ => by rw [(hsteps t ht).2.2]; decide,
      fun t ht _ _ _ _ => (hsteps t ht).1, by decide⟩
  obtain ⟨-, -, -, hrace⟩ := registration_unique plain (w := {}) rfl requests [] turns
  obtain ⟨i, hi, -, -, u, -, hdone, -, hothers⟩ := hrace "owner@example.org" [0, 1]
    (List.cons_ne_nil _ _) hcontenders (by simp [Store.Registered, Pool.run, start, Store.empty])
  refine ⟨requests, turns, "owner@example.org", fun i hi => ?_, i, hi, ⟨u, hdone⟩, hothers⟩
  obtain ⟨input, hrequest, hemail, -⟩ := hregisters i hi
  exact ⟨unhurried, input, hrequest, hemail⟩

end Service

end SignOn
