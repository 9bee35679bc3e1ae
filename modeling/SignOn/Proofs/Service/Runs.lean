import SignOn.Proofs.Service.Conduct
import SignOn.Proofs.Store.Sessions
/-!
# Runs of the service

What holds of any run, however the operations interleave and whatever
goes wrong on the way. Every operation keeps to its conduct
(`Service.InConduct`), and the rows of the store can be traced back to
the steps that put them there (`Service.Ledger`).
-/

namespace SignOn

/-! ## What a step does to the store -/

/-- A query is carried out, or it fails and changes nothing. -/
theorem World.query_cases (w : World) (d : Draw) (ctx : RequestContext) (q : Query) :
    (∃ e, w.query d ctx q = (.error e, w)) ∨
      ∃ x store, w.store.run d.moment.seconds q = .ok (x, store) ∧
        w.query d ctx q = (.ok x, { w with store := store }) := by
  unfold query
  split
  · next e _ => exact .inl ⟨e, rfl⟩
  · split
    · exact .inl ⟨_, rfl⟩
    · split
      · next x store h => exact .inr ⟨x, store, h, rfl⟩
      · next e _ => exact .inl ⟨e, rfl⟩

/-- A query that meets no fault, before its deadline, answers as the store
does. -/
theorem World.query_of_run_eq_ok {w : World} {d : Draw} {ctx : RequestContext} {q : Query}
    {x : q.Answer} {store : Store} (hfault : d.storeFault = none)
    (hover : ctx.isOver d.moment = false) (hrun : w.store.run d.moment.seconds q = .ok (x, store)) :
    w.query d ctx q = (.ok x, { w with store := store }) := by
  simp [query, hfault, hover, hrun]

theorem World.query_of_run_eq_error {w : World} {d : Draw} {ctx : RequestContext} {q : Query}
    {e : StoreError} (hfault : d.storeFault = none) (hover : ctx.isOver d.moment = false)
    (hrun : w.store.run d.moment.seconds q = .error e) : w.query d ctx q = (.error e, w) := by
  simp [query, hfault, hover, hrun]

/-- Publishing leaves the store. -/
theorem World.publish_store (w : World) (d : Draw) (subject : String) (payload : List UInt8) :
    (w.publish d subject payload).2.store = w.store := by
  unfold publish
  split
  · rfl
  · split <;> rfl

namespace Transition

variable {t : Transition} {q : Query}

/-- A query that succeeded. -/
def Answers (t : Transition) (q : Query) (x : q.Answer) : Prop :=
  ∃ ctx, t.step = ⟨.query ctx q, .ok x⟩

/-- **A step changes the store by a query that succeeds, or not at
all.** -/
theorem store_cases (t : Transition) :
    t.after.store = t.before.store ∧ (∀ q x, ¬ t.Answers q x) ∨
      ∃ q x, t.Answers q x ∧ t.before.store.run t.time q = .ok (x, t.after.store) := by
  obtain ⟨program, draw, before, effect⟩ := t
  cases effect with
  | query ctx q =>
    rcases (before.note (.query q)).query_cases draw ctx q with ⟨e, h⟩ | ⟨x, store, hrun, h⟩
    · left
      constructor
      · exact congrArg (fun p => p.2.store) h
      · rintro q' x ⟨ctx', hstep⟩
        have hreply : reply ⟨program, draw, before, .query ctx q⟩ = .error e := congrArg Prod.fst h
        simp only [step, hreply] at hstep
        cases hstep
    · right
      refine ⟨q, x, ⟨ctx, ?_⟩, ?_⟩
      · have hreply : reply ⟨program, draw, before, .query ctx q⟩ = .ok x := congrArg Prod.fst h
        simp only [step, hreply]
      · have hafter : (after ⟨program, draw, before, .query ctx q⟩).store = store :=
          congrArg (fun p => p.2.store) h
        rw [hafter]
        exact hrun
  | publish ctx subject payload =>
    left
    refine ⟨World.publish_store _ draw subject payload, ?_⟩
    rintro q x ⟨ctx', hstep⟩
    cases hstep
  | _ =>
    left
    refine ⟨rfl, ?_⟩
    rintro q x ⟨ctx', hstep⟩
    cases hstep

/-- What a query that succeeded did to the store. -/
theorem run_of_answers {x : q.Answer} (h : t.Answers q x) :
    t.before.store.run t.time q = .ok (x, t.after.store) := by
  rcases t.store_cases with ⟨-, hnone⟩ | ⟨q', x', h', hrun⟩
  · exact absurd h (hnone q x)
  · obtain ⟨ctx, hstep⟩ := h
    obtain ⟨ctx', hstep'⟩ := h'
    cases hstep.symm.trans hstep'
    exact hrun

/-- A query of the step is carried out: it meets no fault, and its
deadline has not passed. -/
def Faultless (t : Transition) : Prop :=
  t.draw.storeFault = none ∧ ∀ ctx q, t.effect = .query ctx q → ctx.isOver t.draw.moment = false

/-- A query that is carried out fails only if the store says so. -/
theorem Faultless.run_eq_error (h : t.Faultless) {ctx : RequestContext} {e : StoreError}
    (hstep : t.step = ⟨.query ctx q, .error e⟩) : t.before.store.run t.time q = .error e := by
  obtain ⟨program, draw, before, effect⟩ := t
  obtain ⟨hfault, hover⟩ := h
  have heffect : effect = .query ctx q := congrArg Step.effect hstep
  subst heffect
  have hreply : ((before.note (.query q)).query draw ctx q).1 = .error e :=
    eq_of_heq (Step.mk.inj hstep).2
  show before.store.run draw.moment.seconds q = .error e
  cases hrun : before.store.run draw.moment.seconds q with
  | ok x =>
    rw [World.query_of_run_eq_ok (w := before.note (.query q)) hfault (hover ctx q rfl) hrun]
      at hreply
    cases hreply
  | error e' =>
    rw [World.query_of_run_eq_error (w := before.note (.query q)) hfault (hover ctx q rfl) hrun]
      at hreply
    rw [Except.error.inj hreply]

/-- A query that is not carried out changes nothing. -/
theorem exists_error_of_not_faultless (h : ¬ t.Faultless) {ctx : RequestContext}
    {x : Except StoreError q.Answer} (hstep : t.step = ⟨.query ctx q, x⟩) :
    ∃ e, x = .error e ∧ t.after.store = t.before.store := by
  obtain ⟨program, draw, before, effect⟩ := t
  have heffect : effect = .query ctx q := congrArg Step.effect hstep
  subst heffect
  obtain rfl : ((before.note (.query q)).query draw ctx q).1 = x := eq_of_heq (Step.mk.inj hstep).2
  show ∃ e, _ = Except.error e ∧ ((before.note (.query q)).query draw ctx q).2.store = before.store
  cases hfault : draw.storeFault with
  | some e =>
    refine ⟨e, ?_, ?_⟩
    · rw [World.query, hfault]
    · rw [World.query, hfault]
      rfl
  | none =>
    have hover : ctx.isOver draw.moment = true := by
      by_contra hnot
      refine h ⟨hfault, ?_⟩
      rintro _ _ ⟨⟩
      exact Bool.eq_false_iff.2 hnot
    refine ⟨.deadlineExceeded, ?_, ?_⟩
    · simp only [World.query, hfault, hover, if_true]
    · simp only [World.query, hfault, hover, if_true]
      rfl

end Transition

theorem got_stepsOf {i : Nat} {l : List Transition} {q : Query} {x : q.Answer} :
    Got (stepsOf i l) q (.ok x) ↔ ∃ t ∈ l, t.program = i ∧ t.Answers q x := by
  constructor
  · rintro ⟨ctx, hmem⟩
    obtain ⟨t, ht, hi, hstep⟩ := mem_stepsOf.1 hmem
    exact ⟨t, ht, hi, ctx, hstep⟩
  · rintro ⟨t, ht, hi, ctx, hstep⟩
    exact ⟨ctx, mem_stepsOf.2 ⟨t, ht, hi, hstep⟩⟩

theorem stepsOf_subset_append (i : Nat) (l l' : List Transition) :
    stepsOf i l ⊆ stepsOf i (l ++ l') := by
  intro x hx
  obtain ⟨t, ht, hi⟩ := mem_stepsOf.1 hx
  exact mem_stepsOf.2 ⟨t, List.mem_append_left _ ht, hi⟩

/-- The live session of an account with a token is ended by a step: by
its token, or because another session of the account is opened. -/
def Transition.Expires (t : Transition) (u : Int) (v : String) : Prop :=
  (∃ r ∈ t.before.store.sessions, r.accountId = u ∧ r.value = v ∧ t.time < r.ttl) ∧
    (t.Answers (.endSession v) () ∨ ∃ v' ttl id, t.Answers (.openSession u v' ttl) id)

namespace Service

variable {s : Service} {w : World} {requests : List Request} {l : List Transition}
variable {q : Pool (Except (Failure ServiceError) Answer)} {t : Turn} {tr : Transition}

/-! ## Conduct along a run -/

theorem Fresh.mono {h h' : List Step} {access v : String} {u ttl : Int}
    (hf : s.Fresh h access v u ttl) (hsub : h ⊆ h') : s.Fresh h' access v u ttl :=
  hf.imp fun _ hjti => ⟨hsub hjti.1, hjti.2⟩

/-- Every operation keeps to its conduct, and what it opens it has signed
itself. -/
structure InConduct (s : Service) (requests : List Request) (l : List Transition)
    (q : Pool (Except (Failure ServiceError) Answer)) : Prop where
  length_eq : q.programs.length = requests.length
  lt_length : ∀ t ∈ l, t.program < requests.length
  opens : ∀ t ∈ l, ∀ ctx u v ttl, t.effect = .query ctx (.openSession u v ttl) →
    ∃ access, s.Fresh (stepsOf t.program l) access v u ttl
  meets : ∀ i request, requests[i]? = some request →
    ∃ prog : Program (Except (Failure ServiceError) Answer), q.programs[i]? = some prog ∧
      prog.Meets (s.conduct request.operation) (s.Concludes request.operation) (stepsOf i l)

theorem inConduct_start (s : Service) (w : World) (requests : List Request) :
    s.InConduct requests [] (s.start w requests) where
  length_eq := List.length_map _
  lt_length := by simp
  opens := by simp
  meets i request hrequest := by
    refine ⟨_, ?_, s.perform_meets request.ctx request.operation⟩
    simp [start, hrequest]

/-- The operation that takes a step. -/
theorem InConduct.request (h : s.InConduct requests l q) (htr : q.transition? t = some tr) :
    ∃ request, requests[tr.program]? = some request ∧
      s.Permits request.operation (stepsOf tr.program l) tr.effect := by
  obtain ⟨-, -, -, next, hnext, -⟩ := Pool.advance_of_transition? htr
  obtain ⟨hlt, -⟩ := List.getElem?_eq_some_iff.1 hnext
  rw [h.length_eq] at hlt
  have hrequest := List.getElem?_eq_getElem hlt
  obtain ⟨prog, hprog, hmeets⟩ := h.meets _ _ hrequest
  exact ⟨_, hrequest, Pool.permits_of_transition? htr hprog hmeets⟩

theorem InConduct.step (h : s.InConduct requests l q) (htr : q.transition? t = some tr) :
    s.InConduct requests (l ++ [tr]) (q.advance t) where
  length_eq := by
    obtain ⟨-, -, -, next, -, hadvance⟩ := Pool.advance_of_transition? htr
    rw [hadvance, List.length_set]
    exact h.length_eq
  lt_length t' ht' := by
    rcases List.mem_append.1 ht' with ht' | ht'
    · exact h.lt_length t' ht'
    · obtain ⟨request, hrequest, -⟩ := h.request htr
      rw [List.mem_singleton.1 ht']
      exact (List.getElem?_eq_some_iff.1 hrequest).1
  opens t' ht' ctx u v ttl heffect := by
    rcases List.mem_append.1 ht' with ht' | ht'
    · exact (h.opens t' ht' ctx u v ttl heffect).imp
        fun _ hfresh => hfresh.mono (stepsOf_subset_append _ _ _)
    · obtain ⟨request, -, hpermits⟩ := h.request htr
      rw [List.mem_singleton.1 ht'] at heffect ⊢
      exact (hpermits.opens ctx u v ttl heffect).2.imp
        fun _ hfresh => hfresh.mono (stepsOf_subset_append _ _ _)
  meets i request hrequest := by
    obtain ⟨prog, hprog, hmeets⟩ := h.meets i request hrequest
    exact Pool.meets_advance htr hprog hmeets fun _ => trivial

/-- **Whoever has opened a session is done**, with the pair that the
session was opened with. -/
theorem InConduct.done_of_opens (h : s.InConduct requests l q) {u ttl id : Int} {v : String}
    (htr : tr ∈ l) (hopens : tr.Answers (.openSession u v ttl) id) :
    ∃ request p, requests[tr.program]? = some request ∧
      q.programs[tr.program]? = some (.done (.ok (.pair p))) ∧
      s.MayOpen request.operation (stepsOf tr.program l) u ∧
      s.Fresh (stepsOf tr.program l) p.accessToken v u ttl ∧
      p.refreshToken = Wrapped.encodeString v := by
  obtain ⟨request, hrequest⟩ : ∃ request, requests[tr.program]? = some request :=
    ⟨_, List.getElem?_eq_getElem (h.lt_length tr htr)⟩
  obtain ⟨prog, hprog, hmeets⟩ := h.meets _ _ hrequest
  obtain ⟨ctx, hstep⟩ := hopens
  have hmem : tr.step ∈ stepsOf tr.program l := mem_stepsOf.2 ⟨tr, htr, rfl, rfl⟩
  rw [hstep] at hmem
  have hopened : ¬ Unopened (stepsOf tr.program l) :=
    fun hun => hun _ hmem ⟨ctx, u, v, ttl, rfl⟩
  -- nothing may follow an opening, so that the program is over
  match prog, hmeets with
  | .await e next, hmeets => exact absurd hmeets.1.unopened hopened
  | .done (.error e), hmeets => exact absurd ⟨ctx, hmem⟩ (hmeets u v ttl id)
  | .done (.ok a), hmeets =>
    obtain ⟨p, rfl, h₀, ctx', u', v', ttl', id', heq, hun, hmay, hfresh, hp⟩ :=
      Concludes.opened hmeets hopened
    rw [heq] at hmem ⊢
    have hsub : h₀ ⊆ h₀ ++ [⟨.query ctx' (.openSession u' v' ttl'), .ok id'⟩] :=
      fun x => List.mem_append_left _
    rcases List.mem_append.1 hmem with hmem | hmem
    · exact absurd ⟨ctx, u, v, ttl, rfl⟩ (hun _ hmem)
    · cases List.mem_singleton.1 hmem
      exact ⟨_, p, hrequest, hprog, hmay.mono hsub,
        hfresh.mono hsub, hp⟩

/-! ## Where the rows come from -/

/-- The row of a session can be traced back to the step that opened it,
with an end that it had until the session was ended by a step. -/
def Traced (s : Service) (l : List Transition) (r : Session) : Prop :=
  ∃ t ∈ l, ∃ exp id access, t.Answers (.openSession r.accountId r.value exp) id ∧
    s.Fresh (stepsOf t.program l) access r.value r.accountId exp ∧ r.ttl ≤ exp ∧
      (r.ttl = exp ∨ ∃ t' ∈ l, t'.Expires r.accountId r.value)

theorem Traced.append {r : Session} (h : s.Traced l r) (l' : List Transition) :
    s.Traced (l ++ l') r := by
  obtain ⟨t, ht, exp, id, access, hopens, hfresh, hle, hexp⟩ := h
  refine ⟨t, List.mem_append_left _ ht, exp, id, access, hopens,
    hfresh.mono (stepsOf_subset_append _ _ _), hle, hexp.imp (fun h => h) ?_⟩
  rintro ⟨t', ht', hexpires⟩
  exact ⟨t', List.mem_append_left _ ht', hexpires⟩

/-- What a store owes to the steps that were taken: the accounts that
were seen are there, and each row belongs to a confirmed account and can
be traced back. -/
structure Ledger (s : Service) (l : List Transition) (store : Store) : Prop where
  accounts : store.AccountsInOrder
  sessions : store.SessionsInOrder
  seen : ∀ t ∈ l, ∀ email a, t.Answers (.accountByEmail email) a →
    a.email = email ∧ ∃ a' ∈ store.accounts, a.Remains a'
  owners : ∀ t ∈ l, ∀ u r, t.Answers (.liveSession u) r →
    store.Confirmed u ∧ ∃ access jti exp, s.issuer.Pairs access r.value u jti exp
  rows : ∀ r ∈ store.sessions, store.Confirmed r.accountId ∧ s.Traced l r

theorem ledger_start (s : Service) (hw : w.store = .empty) : s.Ledger [] w.store := by
  rw [hw]
  exact ⟨Store.accountsInOrder_empty, Store.sessionsInOrder_of_nil rfl, by simp, by simp,
    by simp [Store.empty]⟩

/-- An operation opens a session for a confirmed account only. -/
theorem Ledger.confirmed_of_mayOpen {store : Store} (h : s.Ledger l store) {i : Nat}
    {op : Operation} {u : Int} (hmay : s.MayOpen op (stepsOf i l) u) : store.Confirmed u := by
  obtain ⟨hconcerns, hmay⟩ := hmay
  cases op with
  | login email password =>
    obtain ⟨a, hgot, hconfirmed, rfl⟩ := hconcerns
    obtain ⟨t, ht, -, hanswers⟩ := got_stepsOf.1 hgot
    obtain ⟨-, a', ha', hremains⟩ := h.seen t ht email a hanswers
    exact ⟨a', ha', hremains.id, hremains.confirmed hconfirmed⟩
  | refresh token =>
    obtain ⟨r, -, hgot, -⟩ := hmay
    obtain ⟨t, ht, -, hanswers⟩ := got_stepsOf.1 hgot
    exact (h.owners t ht u r hanswers).1
  | _ => exact hmay.elim

/-- A step without an answer from the store keeps the ledger. -/
theorem Ledger.step_of_same (h : s.Ledger l tr.before.store)
    (hsame : tr.after.store = tr.before.store) (hnone : ∀ q x, ¬ tr.Answers q x) :
    s.Ledger (l ++ [tr]) tr.after.store := by
  rw [hsame]
  refine ⟨h.accounts, h.sessions, ?_, ?_, fun r hr => ?_⟩
  · refine List.forall_mem_append.2 ⟨h.seen, List.forall_mem_singleton.2 fun email a ha => ?_⟩
    exact absurd ha (hnone _ _)
  · refine List.forall_mem_append.2 ⟨h.owners, List.forall_mem_singleton.2 fun u r hr => ?_⟩
    exact absurd hr (hnone _ _)
  · exact ⟨(h.rows r hr).1, (h.rows r hr).2.append _⟩

/-- What a query tells of accounts and sessions is in the ledger. -/
theorem Ledger.told_of_run (h : s.Ledger l tr.before.store) {query : Query} {x : query.Answer}
    (hrun : tr.before.store.run tr.time query = .ok (x, tr.after.store)) :
    (∀ t ∈ l ++ [tr], ∀ email a, t.Answers (.accountByEmail email) a →
      a.email = email ∧ ∃ a' ∈ tr.after.store.accounts, a.Remains a') ∧
    ∀ t ∈ l ++ [tr], ∀ u r, t.Answers (.liveSession u) r →
      tr.after.store.Confirmed u ∧ ∃ access jti exp, s.issuer.Pairs access r.value u jti exp := by
  have hremain := Store.accountsRemain_of_run hrun
  constructor
  · refine List.forall_mem_append.2 ⟨fun t ht email a ha => ?_,
      List.forall_mem_singleton.2 fun email a ha => ?_⟩
    · obtain ⟨hemail, a', ha', hremains⟩ := h.seen t ht email a ha
      obtain ⟨a'', ha'', hremains'⟩ := hremain a' ha'
      exact ⟨hemail, a'', ha'', hremains.trans hremains'⟩
    · have hfound := (Store.unchanged_eq_ok_iff.1 (Transition.run_of_answers ha)).1
      obtain ⟨hmem, hemail⟩ := Store.mem_of_accountByEmail hfound
      exact ⟨hemail, hremain a hmem⟩
  · refine List.forall_mem_append.2 ⟨fun t ht u r hr => ?_,
      List.forall_mem_singleton.2 fun u r hr => ?_⟩
    · exact (h.owners t ht u r hr).imp_left fun hu => hu.mono hremain
    · -- the row that was found is one that can be traced back
      have hfound := (Store.unchanged_eq_ok_iff.1 (Transition.run_of_answers hr)).1
      obtain ⟨hmem, hu, -⟩ := Store.mem_of_liveSession hfound
      obtain ⟨hconfirmed, -, -, exp, -, access, -, ⟨jti, -, hpairs⟩, -⟩ := h.rows r hmem
      exact hu ▸ ⟨hconfirmed.mono hremain, access, jti, exp, hpairs⟩

/-- A row can be traced back after a query: it was there, it was ended,
or it is the one that was opened. -/
theorem Ledger.row_of_run (h : s.Ledger l tr.before.store) (hconduct : s.InConduct requests l q)
    (htr : q.transition? t = some tr) {query : Query} {x : query.Answer}
    (hanswers : tr.Answers query x)
    (hrun : tr.before.store.run tr.time query = .ok (x, tr.after.store)) {r : Session}
    (hr : r ∈ tr.after.store.sessions) :
    tr.after.store.Confirmed r.accountId ∧ s.Traced (l ++ [tr]) r := by
  have hremain := Store.accountsRemain_of_run hrun
  rcases Store.mem_sessions_of_run hrun hr with hr | ⟨r, hold, hends, hlive, rfl⟩ | hq
  · exact ⟨(h.rows r hr).1.mono hremain, (h.rows r hr).2.append _⟩
  · -- the step that ends the row is the one that the row then ends with
    obtain ⟨hconfirmed, t', ht', exp, id, access, hopens, hfresh, hle, -⟩ := h.rows r hold
    refine ⟨hconfirmed.mono hremain, t', List.mem_append_left _ ht', exp, id, access, hopens,
      hfresh.mono (stepsOf_subset_append _ _ _), ?_, .inr ⟨tr, by simp, ?_⟩⟩
    · show tr.time - 1 ≤ exp
      omega
    · refine ⟨⟨r, hold, rfl, rfl, hlive⟩, ?_⟩
      cases query with
      | openSession u v ttl => exact .inr ⟨v, ttl, x, hends ▸ hanswers⟩
      | endSession v => exact .inl (hends ▸ hanswers)
      | _ => exact hends.elim
  · subst hq
    obtain ⟨request, -, hpermits⟩ := hconduct.request htr
    obtain ⟨ctx, hstep⟩ := id hanswers
    obtain ⟨hmay, access, hfresh⟩ := hpermits.opens ctx _ _ _ (congrArg Step.effect hstep)
    exact ⟨(h.confirmed_of_mayOpen hmay).mono hremain, tr, by simp, r.ttl, x, access, hanswers,
      hfresh.mono (stepsOf_subset_append _ _ _), Int.le_refl _, .inl rfl⟩

/-- **A step keeps the ledger.** -/
theorem Ledger.step (h : s.Ledger l q.world.store) (hconduct : s.InConduct requests l q)
    (htr : q.transition? t = some tr) : s.Ledger (l ++ [tr]) tr.after.store := by
  obtain ⟨-, -, hbefore, -⟩ := Pool.advance_of_transition? htr
  rw [← hbefore] at h
  rcases tr.store_cases with ⟨hsame, hnone⟩ | ⟨query, x, hanswers, hrun⟩
  · exact h.step_of_same hsame hnone
  · obtain ⟨hseen, howners⟩ := h.told_of_run hrun
    exact ⟨h.accounts.run hrun, h.sessions.run hrun, hseen, howners,
      fun r hr => h.row_of_run hconduct htr hanswers hrun hr⟩

/-! ## Whom an operation is about -/

/-- The account whose session an operation may open or end. The others
leave all sessions alone, but for those that have ended. -/
def sessionOwner? (s : Service) (store : Store) : Operation → Option Int
  | .login email _ => (store.accountWithEmail? email).map (·.id)
  | .refresh token => (Wrapped.decodeString token).toOption.bind s.issuer.renewedAccount?
  | .logout token => s.issuer.parseEmbeddedAccess token
  | _ => none

/-- The account that concerns an operation is the one that it is
about. -/
theorem Ledger.sessionOwner?_eq {store : Store} (h : s.Ledger l store) {i : Nat} {op : Operation}
    {u : Int} (hconcerns : s.Concerns op (stepsOf i l) u) : s.sessionOwner? store op = some u := by
  cases op with
  | login email password =>
    obtain ⟨a, hgot, -, rfl⟩ := hconcerns
    obtain ⟨t, ht, -, hanswers⟩ := got_stepsOf.1 hgot
    obtain ⟨hemail, a', ha', hremains⟩ := h.seen t ht email a hanswers
    have hfound := h.accounts.accountWithEmail?_eq_some_iff.2
      ⟨ha', hremains.email.trans hemail⟩
    rw [sessionOwner?, hfound, Option.map_some, hremains.id]
  | refresh token =>
    obtain ⟨t, ht, hu⟩ := hconcerns
    rw [sessionOwner?, ht]
    exact hu
  | logout token => exact hconcerns
  | _ => exact hconcerns.elim

/-- An operation was about an account from the time on that the account
was there. -/
theorem sessionOwner?_of_remain {store store' : Store} (h : store.AccountsInOrder)
    (h' : store'.AccountsInOrder) (hremain : store.AccountsRemain store') {op : Operation} {u : Int}
    (hu : ∃ a ∈ store.accounts, a.id = u) (howner : s.sessionOwner? store' op = some u) :
    s.sessionOwner? store op = some u := by
  cases op with
  | login email password =>
    obtain ⟨a, ha, rfl⟩ := hu
    obtain ⟨a', ha', hremains⟩ := hremain a ha
    obtain ⟨b, hb, hid⟩ := Option.map_eq_some_iff.1 howner
    -- addresses do not change, and the id tells which account was found
    obtain ⟨hmem, hemail⟩ := h'.accountWithEmail?_eq_some_iff.1 hb
    obtain rfl := h'.eq_of_id_eq hmem ha' (hid.trans hremains.id.symm)
    have hfound := h.accountWithEmail?_eq_some_iff.2 ⟨ha, hremains.email.symm.trans hemail⟩
    rw [sessionOwner?, hfound, Option.map_some]
  | _ => exact howner

end Service

end SignOn
