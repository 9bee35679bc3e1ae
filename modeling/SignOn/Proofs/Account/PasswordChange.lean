import SignOn.Proofs.Account.Conduct
import SignOn.Proofs.Service.Ways
import SignOn.Proofs.Session.Admission
import SignOn.Proofs.Session.Spent
/-!
# Changing a password

A change of a password reads the account, checks the old password, and
sets a hash of the new one, in steps of their own. The hash that it
replaces is the one that it checked, or one that was set in between:
`Service.changePassword_replaces`. So of two changes at once that are both
given the password that an account has, the first to write is lost.
-/

namespace SignOn

namespace Store

variable {s s' : Store} {now u : Int} {a : Account}

/-- The hash of an account after a change that does not touch hashes. -/
theorem passwordHash_of_changeAccount {f : Account → Account} (hid : ∀ b : Account, (f b).id = b.id)
    (hhash : ∀ b : Account, (f b).passwordHash = b.passwordHash)
    (h : s.changeAccount now u f = .ok s') (ha : a ∈ s'.accounts) :
    ∃ b ∈ s.accounts, b.id = a.id ∧ b.passwordHash = a.passwordHash := by
  rcases mem_of_changeAccount h ha with ha | ⟨b, hb, -, rfl⟩
  · exact ⟨a, ha, rfl, rfl⟩
  · exact ⟨b, hb, (hid b).symm, (hhash b).symm⟩

/-- **Where password hashes come from**: a hash was there, it was set, or
the account is new. -/
theorem passwordHash_of_run {q : Query} {x : q.Answer} (h : s.run now q = .ok (x, s'))
    (ha : a ∈ s'.accounts) :
    (∃ b ∈ s.accounts, b.id = a.id ∧ b.passwordHash = a.passwordHash) ∨
      q = .setPassword a.id a.passwordHash ∨ a.id = s.lastAccountId + 1 := by
  have hsame (heq : s'.accounts = s.accounts) :
      ∃ b ∈ s.accounts, b.id = a.id ∧ b.passwordHash = a.passwordHash :=
    ⟨a, heq ▸ ha, rfl, rfl⟩
  cases q with
  | insertAccount new =>
    obtain ⟨new, -, heq, -⟩ := accountsExtended_of_insertAccount h
    rw [heq] at ha
    rcases List.mem_append.1 ha with ha | ha
    · exact .inl ⟨a, ha, rfl, rfl⟩
    · rw [List.mem_singleton.1 ha]
      exact .inr (.inr rfl)
  | updateProfile id patch =>
    refine .inl (passwordHash_of_changeAccount ?_ ?_ (changed_eq_ok_iff.1 h) ha) <;>
    exact fun b => rfl
  | confirmEmail id =>
    have h := changed_eq_ok_iff.1 h
    unfold confirmEmail at h
    split at h
    · cases h
    · split at h
      · cases h
      · refine .inl (passwordHash_of_changeAccount ?_ ?_ h ha) <;>
        exact fun b => rfl
  | setPassword id hash =>
    rcases mem_of_changeAccount (changed_eq_ok_iff.1 h) ha with ha | ⟨b, hb, rfl, rfl⟩
    · exact .inl ⟨a, ha, rfl, rfl⟩
    · exact .inr (.inl rfl)
  | openSession u v ttl => exact .inl (hsame (sameAccounts_of_openSession h).1)
  | endSession v => exact .inl (hsame (sameAccounts_of_endSession (changed_eq_ok_iff.1 h)).1)
  | purge _ | listAccounts _ =>
    cases h
    exact .inl (hsame rfl)
  | accountById _ | accountByEmail _ | liveSession _ =>
    exact .inl (hsame (congrArg accounts (unchanged_eq_ok_iff.1 h).2))

/-- Since an account was read, a hash that it has was read with it, or was
set by one of the steps. -/
structure FollowsFrom (b : Account) (l : List Transition) (s : Store) : Prop where
  le_last : b.id ≤ s.lastAccountId
  hash : ∀ a ∈ s.accounts, a.id = b.id → a.passwordHash = b.passwordHash ∨
    ∃ t ∈ l, t.Answers (.setPassword b.id a.passwordHash) ()

theorem AccountsInOrder.followsFrom (h : s.AccountsInOrder) {b : Account} (hb : b ∈ s.accounts) :
    s.FollowsFrom b [] where
  le_last := h.le_last b hb
  hash _ ha hid := .inl (congrArg Account.passwordHash (h.eq_of_id_eq ha hb hid))

/-- **A step keeps it.** -/
theorem FollowsFrom.step {b : Account} {l : List Transition} {tr : Transition}
    (h : tr.before.store.FollowsFrom b l) : tr.after.store.FollowsFrom b (l ++ [tr]) := by
  have hearlier {hash : String}
      (h : hash = b.passwordHash ∨ ∃ t ∈ l, t.Answers (.setPassword b.id hash) ()) :
      hash = b.passwordHash ∨ ∃ t ∈ l ++ [tr], t.Answers (.setPassword b.id hash) () :=
    h.imp_right fun ⟨t, ht, hset⟩ => ⟨t, List.mem_append_left _ ht, hset⟩
  rcases tr.store_cases with ⟨hsame, -⟩ | ⟨q, x, hanswers, hrun⟩
  · rw [hsame]
    exact ⟨h.le_last, fun a ha hid => hearlier (h.hash a ha hid)⟩
  · have hlast := h.le_last
    have hcount := lastAccountId_le_of_run hrun
    refine ⟨by omega, fun a ha hid => ?_⟩
    rcases passwordHash_of_run hrun ha with ⟨a', ha', hid', hhash⟩ | rfl | hnew
    · rw [← hhash]
      exact hearlier (h.hash a' ha' (hid'.trans hid))
    · rw [hid] at hanswers
      exact .inr ⟨tr, by simp, hanswers⟩
    · omega

end Store

/-- A step that sets a password. -/
def Effect.SetsPassword (e : Effect) : Prop :=
  ∃ ctx u hash, e = .query ctx (.setPassword u hash)

namespace Service

open Procedure

variable {s : Service} {w : World} {requests : List Request} {turns : List Turn} {i : Nat}
variable {ctx : RequestContext} {token old new : String} {u : Int} {b : Account}

/-! ## What a change of a password has done -/

/-- A change of a password up to the point where it sets it: the old one
is right, and the new one is hashed. -/
def checkAndHash (s : Service) (ctx : RequestContext) (token old new : String) :
    Procedure (Int × String) := do
  s.requireValid .password new
  require (old != new) .invalidPassword
  let id ← s.accountOfAccess token
  let account ← ask ctx (.accountById id) .ofLookup
  let right ← verifyPassword ctx old account.passwordHash
  require right .wrongPassword
  let hash ← s.hashPassword ctx new
  return (id, hash)

theorem changePassword_eq (s : Service) (ctx : RequestContext) (token old new : String) :
    s.changePassword ctx token old new =
      s.checkAndHash ctx token old new >>= fun (id, hash) =>
        ask ctx (.setPassword id hash) .ofStore := by
  simp only [changePassword, checkAndHash, bind_assoc, pure_bind]

/-- What a change has done before it sets the password: it was told of the
account, whose password is the old one, and since then it has looked at
nothing that is shared. -/
def Checked (s : Service) (token old new : String) (h : List Step) (u : Int) (hash : String) :
    Prop :=
  ∃ h₁ ctx b h₂, h = h₁ ++ ⟨.query ctx (.accountById u), .ok b⟩ :: h₂ ∧
    (∀ x ∈ h₂, x.effect.Inward) ∧ s.issuer.parseEmbeddedAccess token = some u ∧
    Password.verify old b.passwordHash = true ∧ Password.verify new hash = true

/-- The setting in which steps are written down, and nothing is known of
the replies. -/
abbrev anyhow : Setting (List Step) :=
  .history (fun _ _ => True) fun _ _ => True

/-- **A change checks the old password first.** -/
theorem checkAndHash_anyhow :
    Meets anyhow (fun h r => s.Checked token old new h r.1 r.2 ∧ s.Salted h new r.2)
      (fun _ _ => True) (s.checkAndHash ctx token old new) [] := by
  refine meets_bind.2 (meets_require.2 ⟨fun _ => ?_, fun _ => trivial⟩)
  refine meets_bind.2 (meets_require.2 ⟨fun _ => ?_, fun _ => trivial⟩)
  refine meets_bind.2 (meets_bind.2 (meets_history_now trivial fun m _ => ?_))
  refine meets_expect.2 ⟨fun u hu => ?_, fun _ => trivial⟩
  refine meets_bind.2 (meets_history_ask trivial (fun b _ => ?_) fun _ _ => trivial)
  refine meets_bind.2 (meets_bind.2 (meets_bind.2 (meets_history_step trivial fun late _ => ?_)))
  refine meets_require.2 ⟨fun _ => ?_, fun _ => trivial⟩
  refine meets_bind.2 (meets_require.2 ⟨fun hold => ?_, fun _ => trivial⟩)
  refine meets_bind.2 (meets_bind.2 (meets_bind.2 (meets_history_step trivial fun late' _ => ?_)))
  refine meets_require.2 ⟨fun _ => ?_, fun _ => trivial⟩
  refine meets_bind.2 (meets_history_step trivial fun salt _ => ?_)
  refine meets_ofExcept.2 ⟨fun hash hhash => ?_, fun _ _ => trivial⟩
  obtain ⟨c, hc, -, hvalue⟩ := TokenIssuer.parseAccount_eq_some_iff.1 hu
  refine ⟨⟨[⟨.clock, m⟩], ctx, b, [⟨.deadline ctx, late⟩, ⟨.deadline ctx, late'⟩, ⟨.salt, salt⟩],
    rfl, by simp [Effect.Inward], ?_, hold, Password.verify_of_hash hhash⟩, salt, by simp, hhash⟩
  exact TokenIssuer.parseEmbeddedAccess_eq_some_iff.2 ⟨c, hc, hvalue⟩

/-- A change that succeeds sets the password last. -/
theorem changePassword_anyhow :
    (s.perform ctx (.changePassword token old new)).run.Meets anyhow
      (fun h r => ∀ a, r = .ok a → ∃ h' u hash ctx, s.Checked token old new h' u hash ∧
        h = h' ++ [⟨.query ctx (.setPassword u hash), .ok ()⟩]) [] := by
  have hchange : Meets anyhow
      (fun h _ => ∃ h' u hash ctx, s.Checked token old new h' u hash ∧
        h = h' ++ [⟨.query ctx (.setPassword u hash), .ok ()⟩])
      (fun _ _ => True) (s.changePassword ctx token old new) [] := by
    rw [changePassword_eq]
    refine meets_bind.2 (checkAndHash_anyhow.mono (fun h r hchecked => ?_) fun _ _ h => h)
    refine meets_history_ask trivial (fun _ _ => ?_) fun _ _ => trivial
    exact ⟨h, r.1, r.2, ctx, hchecked.1, rfl⟩
  have hperform : Meets anyhow
      (fun h _ => ∃ h' u hash ctx, s.Checked token old new h' u hash ∧
        h = h' ++ [⟨.query ctx (.setPassword u hash), .ok ()⟩])
      (fun _ _ => True) (s.perform ctx (.changePassword token old new)) [] := meets_map.2 hchange
  refine Program.Meets.mono hperform fun h r hr a ha => ?_
  subst ha
  exact hr

/-! ## Along a run -/

/-- **What was read is followed from there on.** -/
theorem followsFrom_run {q : Pool (Except (Failure ServiceError) Answer)} {during : List Turn}
    {read : Transition} {l : List Transition} (haccounts : q.world.store.AccountsInOrder)
    (htrace : q.trace during = read :: l) (hread : read.Answers (.accountById u) b) :
    b.id = u ∧ (q.run during).world.store.FollowsFrom b l := by
  obtain ⟨hfound, hsame⟩ := Store.unchanged_eq_ok_iff.1 (Transition.run_of_answers hread)
  rw [Pool.before_of_trace_eq_cons htrace] at hfound hsame
  obtain ⟨hb, hid⟩ := Store.mem_of_accountById hfound
  have hfollows := Pool.run_induction (p := q)
    (I := fun l q' => ∀ l', l = read :: l' → q'.world.store.FollowsFrom b l') nofun ?_ during
  · exact ⟨hid, hfollows l htrace⟩
  · intro l q' t tr ih htr l' heq
    obtain ⟨-, -, hbefore, next, -, hadvance⟩ := Pool.advance_of_transition? htr
    rw [hadvance]
    cases l with
    | nil =>
      obtain ⟨rfl, rfl⟩ := List.cons.inj heq
      show tr.after.store.FollowsFrom b []
      rw [hsame]
      exact haccounts.followsFrom hb
    | cons x l =>
      obtain ⟨rfl, rfl⟩ := List.cons.inj heq
      have hfollows := ih l rfl
      rw [← hbefore] at hfollows
      exact hfollows.step

/-- **What a change of a password replaces.** In any run, however the
operations interleave and whatever they meet, a change that succeeded has
read the account of its token, with the old password, and has set the new
one in a later step. The hash that it replaced there is one that the old
password verifies against, or one that another operation has set in
between. -/
theorem changePassword_replaces (s : Service) {w : World} (hw : w.store = .empty)
    {requests : List Request} {turns : List Turn} {i : Nat} {ctx : RequestContext}
    {token old new : String} {x : Answer}
    (hrequest : requests[i]? = some ⟨ctx, .changePassword token old new⟩)
    (hdone : ((s.start w requests).run turns).programs[i]? = some (.done (.ok x))) :
    ∃ l₁ read l₂ write l₃ u b hash,
      (s.start w requests).trace turns = l₁ ++ read :: (l₂ ++ write :: l₃) ∧
      read.program = i ∧ write.program = i ∧ s.issuer.parseEmbeddedAccess token = some u ∧
      read.Answers (.accountById u) b ∧ Password.verify old b.passwordHash = true ∧
      write.Answers (.setPassword u hash) () ∧ Password.verify new hash = true ∧
      ∃ a ∈ write.before.store.accounts, a.id = u ∧
        (Password.verify old a.passwordHash = true ∨
          ∃ t ∈ l₂, t.program ≠ i ∧ t.Answers (.setPassword u a.passwordHash) ()) := by
  -- the steps that it has taken, and where they stand in the run
  have hprog : (s.start w requests).programs[i]? =
      some (s.perform ctx (.changePassword token old new)).run := by
    simp [start, hrequest]
  obtain ⟨prog, hprog', hmeets⟩ := Pool.meets_run turns hprog changePassword_anyhow
  obtain rfl := Option.some.inj (hprog'.symm.trans hdone)
  obtain ⟨-, u, hash, ctx', ⟨h₁, ctx'', b, h₂, rfl, hinward, hu, hold, hnew⟩, hsteps⟩ :=
    hmeets x rfl
  rw [List.append_assoc, List.cons_append] at hsteps
  obtain ⟨l₁, read, l, htrace, hread, hreads, -, hl⟩ := exists_of_stepsOf_eq hsteps
  obtain ⟨l₂, write, l₃, rfl, hwrite, hwrites, hl₂, -⟩ := exists_of_stepsOf_eq hl
  refine ⟨l₁, read, l₂, write, l₃, u, b, hash, htrace, hread, hwrite, hu, ⟨ctx'', hreads⟩, hold,
    ⟨ctx', hwrites⟩, hnew, ?_⟩
  -- the same run, up to the one step and up to the other
  obtain ⟨turns₁, turns₂, rfl, -, htrace₂⟩ := Pool.exists_of_trace_eq_append htrace
  obtain ⟨turns₃, turns₄, rfl, htrace₃, htrace₄⟩ :=
    Pool.exists_of_trace_eq_append (l := read :: l₂) htrace₂
  have haccounts := (s.sound_run hw requests turns₁).ledger.accounts
  obtain ⟨hid, hfollows⟩ := followsFrom_run haccounts htrace₃ ⟨ctx'', hreads⟩
  have hset := Store.changed_eq_ok_iff.1 (Transition.run_of_answers ⟨ctx', hwrites⟩)
  obtain ⟨a, ha, hau⟩ := Store.exists_of_changeAccount hset
  rw [← Pool.before_of_trace_eq_cons htrace₄] at hfollows
  refine ⟨a, ha, hau, ?_⟩
  rcases hfollows.hash a ha (hau.trans hid.symm) with hsame | ⟨t, ht, hsets⟩
  · rw [hsame]
    exact .inl hold
  · rw [hid] at hsets
    refine .inr ⟨t, ht, fun hi => ?_, hsets⟩
    obtain ⟨ctx₀, hstep⟩ := hsets
    have hmem : t.step ∈ stepsOf i l₂ := mem_stepsOf.2 ⟨t, ht, hi, rfl⟩
    rw [hl₂, hstep] at hmem
    exact hinward _ hmem

/-! ## A change that is lost -/

/-- What a change sets is the last step of it. -/
theorem perform_changePassword_run (s : Service) (ctx : RequestContext) (token old new : String) :
    ∃ f, (s.perform ctx (.changePassword token old new)).run =
        (s.checkAndHash ctx token old new).run.bind f ∧
      ∀ r, f (.ok r) = ((fun _ => Answer.done) <$> ask ctx (.setPassword r.1 r.2) .ofStore).run := by
  have hperform : s.perform ctx (.changePassword token old new) =
      s.checkAndHash ctx token old new >>= fun r =>
        (fun _ => Answer.done) <$> ask ctx (.setPassword r.1 r.2) .ofStore := by
    show (fun _ => Answer.done) <$> s.changePassword ctx token old new = _
    rw [changePassword_eq, map_bind]
  rw [hperform]
  exact ⟨_, rfl, fun _ => rfl⟩

/-- A change of a password that is in order. -/
structure Changeable (s : Service) (now : Int) (token old new : String) (b : Account) : Prop where
  ne : old ≠ new
  accepts : s.validator.accepts .password new = true
  size : Utf8.size new ≤ Password.maxBytes
  cost : Bcrypt.costAllowed s.hashCost.toNat = true
  token : s.issuer.parseAccess now token = some b.id
  old : Password.verify old b.passwordHash = true

/-- It is checked, and nothing changes. -/
theorem checkAndHash_calm {now : Int} {σ : Scene} (h : s.Changeable now token old new b)
    (hσ : σ.store.AccountsInOrder) (hb : b ∈ σ.store.accounts) :
    Meets (.calm now) (fun σ' r => σ' = σ ∧ r.1 = b.id) (fun _ _ => False)
      (s.checkAndHash ctx token old new) σ := by
  refine meets_bind.2 (meets_require.2 ⟨fun _ => ?_, by simp [h.accepts]⟩)
  refine meets_bind.2 (meets_require.2 ⟨fun _ => ?_, by simp [h.ne]⟩)
  refine meets_bind.2 (meets_bind.2 (meets_calm_now ?_))
  rw [h.token]
  refine meets_bind.2 (meets_calm_accountById hσ hb ?_)
  refine meets_bind.2 (verifyPassword_calm ?_)
  refine meets_bind.2 (meets_require.2 ⟨fun _ => ?_, by simp [h.old]⟩)
  refine meets_bind.2 ((hashPassword_calm h.size h.cost).mono ?_ fun _ _ he => he)
  rintro σ' hash ⟨rfl, -⟩
  exact ⟨rfl, rfl⟩

/-- It sets no password. -/
theorem uses_checkAndHash (s : Service) (ctx : RequestContext) (token old new : String) :
    (s.checkAndHash ctx token old new).Uses fun e => e.IsFor ctx ∧ ¬ e.SetsPassword :=
  (uses_require _ _).bind fun _ => (uses_require _ _).bind fun _ =>
    (s.uses_accountOfAccess ⟨trivial, nofun⟩ token).bind fun _ =>
      (uses_ask ⟨rfl, nofun⟩ _).bind fun _ =>
        (uses_verifyPassword ctx ⟨rfl, nofun⟩ _ _).bind fun _ => (uses_require _ _).bind fun _ =>
          (s.uses_hashPassword ctx ⟨rfl, nofun⟩ ⟨trivial, nofun⟩ new).bind fun _ => uses_pure _

/-- The rest of a change of a password, after the check. -/
def setting (ctx : RequestContext) (u : Int) (hash : String) :
    Program (Except (Failure ServiceError) Answer) :=
  ((fun _ => Answer.done) <$> ask ctx (.setPassword u hash) .ofStore).run

variable {q : Pool (Except (Failure ServiceError) Answer)} {now : Int}

/-- A change can have its turns up to the point where it sets the
password, to a hash with a salt of zeros. -/
theorem exists_check_turns (hctx : ctx.deadline = none)
    (hprog : q.programs[i]? = some (s.perform ctx (.changePassword token old new)).run)
    (h : s.Changeable now token old new b) (haccounts : q.world.store.AccountsInOrder)
    (hb : b ∈ q.world.store.accounts) :
    ∃ turns w hash, q.run turns = ⟨w, q.programs.set i (setting ctx b.id hash)⟩ ∧
      w.store = q.world.store ∧ Password.hash s.hashCost (.replicate 16 0) new = .ok hash ∧
      ∀ t ∈ q.trace turns, t.program = i ∧ ¬ t.effect.SetsPassword := by
  obtain ⟨f, hrun, hf⟩ := s.perform_changePassword_run ctx token old new
  rw [hrun] at hprog
  obtain ⟨id, hid, hfresh⟩ := exists_fresh []
  obtain ⟨turns, hturns, htrace⟩ := Pool.exists_turns_bind (calmDraws now id) (n := 0) hprog
  have huses := s.uses_checkAndHash ctx token old new
  -- the check cannot fail, and its steps tell what was hashed
  have hresult := Program.run_of_meets (checkAndHash_calm h haccounts hb)
    (Program.calm_trace (huses.mono fun e he => he.1) hctx 0 q.world)
    (Program.nodup_identifiers .nil hid hfresh _ 0 q.world)
  have hsteps := checkAndHash_anyhow.of_yields
    (Program.yields_run (calmDraws now id) (s.checkAndHash ctx token old new).run 0 q.world)
    fun _ _ => trivial
  cases hr : ((s.checkAndHash ctx token old new).run.run (calmDraws now id) 0 q.world).result with
  | error e =>
    rw [hr] at hresult
    exact hresult.elim
  | ok r =>
    rw [hr] at hresult hsteps hturns
    obtain ⟨hscene, hr⟩ := hresult
    obtain ⟨-, hsalted⟩ := hsteps
    rw [hf, hr] at hturns
    refine ⟨turns, _, r.2, hturns, congrArg Scene.store hscene,
      hsalted.hash_eq fun _ hsalt => Program.salt_eq_of_trace hsalt, fun t ht => ?_⟩
    rw [htrace] at ht
    obtain ⟨t', ht', rfl⟩ := List.mem_map.1 ht
    exact ⟨rfl, (Program.trace_of_only huses _ _ _ t' ht').2⟩

/-- And it can set it, if the account is there. -/
theorem exists_set_turn {hash : String} (hctx : ctx.deadline = none)
    (hprog : q.programs[i]? = some (setting ctx u hash))
    (hu : ∃ a ∈ q.world.store.accounts, a.id = u) :
    ∃ turn w, q.run [turn] = ⟨w, q.programs.set i (.done (.ok .done))⟩ ∧
      (∃ a ∈ w.store.accounts, a.id = u ∧ a.passwordHash = hash) ∧
      ∀ t ∈ q.trace [turn], t.program = i ∧ t.effect.SetsPassword ∧ t.before = q.world := by
  have hsetting : ∃ next, setting ctx u hash = .await (.query ctx (.setPassword u hash)) next ∧
      next (.ok ()) = .done (.ok .done) := ⟨_, rfl, rfl⟩
  obtain ⟨next, hawait, hnext⟩ := hsetting
  rw [hawait] at hprog
  let draw : Draw := calmDraws 0 (fun _ => "") 0 (.query ctx (.setPassword u hash))
  obtain ⟨store, hset⟩ := Store.exists_changeAccount_eq_ok 0
    (fun a => { a with passwordHash := hash }) hu
  have hquery : (q.world.note (.query (.setPassword u hash))).query draw ctx (.setPassword u hash) =
      (.ok (), { q.world.note (.query (.setPassword u hash)) with store := store }) :=
    World.query_of_run_eq_ok rfl (by rw [RequestContext.isOver, hctx])
      (Store.changed_eq_ok_iff.2 hset)
  -- the step, and the pool after it
  let t : Transition := ⟨i, draw, q.world, .query ctx (.setPassword u hash)⟩
  have htr : q.transition? ⟨i, draw⟩ = some t := (Pool.advance_of_await hprog draw).1
  have hreply : t.reply = .ok () := congrArg Prod.fst hquery
  have hafter : t.after.store = store := congrArg (fun x => x.2.store) hquery
  have hrun : q.run [⟨i, draw⟩] = ⟨t.after, q.programs.set i (.done (.ok .done))⟩ := by
    show q.advance ⟨i, draw⟩ = _
    rw [Pool.advance, hprog, ← hnext, ← hreply]
    rfl
  have htrace : q.trace [⟨i, draw⟩] = [t] := Pool.trace_cons htr []
  refine ⟨⟨i, draw⟩, t.after, hrun, ?_, ?_⟩
  · rw [hafter, (Store.changeAccount_eq_ok_iff.1 hset).2]
    obtain ⟨a, ha, hau⟩ := hu
    exact ⟨_, List.mem_map_of_mem ha, by simp [hau]⟩
  · rw [htrace]
    intro t' ht'
    rw [List.mem_singleton.1 ht']
    exact ⟨rfl, ⟨ctx, u, hash, rfl⟩, rfl⟩

/-- What stands between a part before and a part after stands between two
steps of which the one is in the part before and the other in the part
after. -/
theorem mem_between {α : Type} {before middle after l₁ l₂ l₃ : List α} {x y z : α}
    (h : before ++ (middle ++ after) = l₁ ++ x :: (l₂ ++ y :: l₃)) (hx : x ∉ middle ++ after)
    (hy : y ∉ before ++ middle) (hz : z ∈ middle) : z ∈ l₂ := by
  rcases List.append_eq_append_iff.1 h with ⟨m, -, hm⟩ | ⟨m, rfl, hm⟩
  · exact absurd (by rw [hm]; simp) hx
  · cases m with
    | nil => exact absurd (by rw [← List.nil_append (middle ++ after), ← hm]; simp) hx
    | cons x' m =>
      obtain ⟨rfl, htail⟩ := List.cons.inj hm
      have htail : l₂ ++ y :: l₃ = m ++ middle ++ after := by
        rw [List.append_assoc]
        exact htail
      rcases List.append_eq_append_iff.1 htail with ⟨k, hk, hl⟩ | ⟨k, rfl, -⟩
      · cases k with
        | nil =>
          rw [List.append_nil] at hk
          rw [← hk]
          exact List.mem_append_right _ hz
        | cons y' k =>
          obtain ⟨rfl, -⟩ := List.cons.inj hl
          have hmem : y ∈ m ++ middle := by
            rw [hk]
            simp
          refine absurd ?_ hy
          rcases List.mem_append.1 hmem with hmem | hmem
          · simp [hmem]
          · simp [hmem]
      · simp [hz]

/-- Where one change is overtaken by another: it has checked the old
password, then the other has its steps, and then it sets the new one, and
finds the hash there that the other has set. -/
structure Overtaken (s : Service) (i j : Nat) (u : Int) (new' : String)
    (check middle last : List Transition) : Prop where
  check : ∀ t ∈ check, t.program = i ∧ ¬ t.effect.SetsPassword
  middle : ∀ t ∈ middle, t.program = j
  found : ∀ t ∈ last, ∃ a ∈ t.before.store.accounts, a.id = u ∧
    Password.hash s.hashCost (.replicate 16 0) new' = .ok a.passwordHash
  last : ∀ t ∈ last, t.program = i ∧ t.effect.SetsPassword

section

variable {before check middle last l₁ l₂ l₃ : List Transition} {read write t : Transition}
variable {j : Nat} {new' : String}

/-- The one sets the password at the end. -/
theorem Overtaken.notMem_early (h : s.Overtaken i j u new' check middle last) (hij : i ≠ j)
    (hbefore : ∀ t ∈ before, t.program ≠ i ∧ t.program ≠ j) (hwrite : write.program = i)
    (hwrites : write.effect.SetsPassword) : write ∉ before ++ check ++ middle := by
  intro hmem
  rcases List.mem_append.1 hmem with hmem | hmem
  · rcases List.mem_append.1 hmem with hmem | hmem
    · exact (hbefore write hmem).1 hwrite
    · exact (h.check write hmem).2 hwrites
  · exact hij (hwrite.symm.trans (h.middle write hmem))

theorem Overtaken.mem_last (h : s.Overtaken i j u new' check middle last) (hij : i ≠ j)
    (hbefore : ∀ t ∈ before, t.program ≠ i ∧ t.program ≠ j) (hwrite : write.program = i)
    (hwrites : write.effect.SetsPassword) (hmem : write ∈ before ++ check ++ (middle ++ last)) :
    write ∈ last := by
  rw [← List.append_assoc] at hmem
  exact (List.mem_append.1 hmem).resolve_left (h.notMem_early hij hbefore hwrite hwrites)

/-- What the other change does is done between the steps with which the
one reads the account and sets the password. -/
theorem Overtaken.mem_between (h : s.Overtaken i j u new' check middle last) (hij : i ≠ j)
    (hbefore : ∀ t ∈ before, t.program ≠ i ∧ t.program ≠ j)
    (hsplit : before ++ check ++ (middle ++ last) = l₁ ++ read :: (l₂ ++ write :: l₃))
    (hread : read.program = i) (hreads : ¬ read.effect.SetsPassword)
    (hwrite : write.program = i) (hwrites : write.effect.SetsPassword)
    (ht : t.program = j) (hmem : t ∈ before ++ check ++ (middle ++ last)) : t ∈ l₂ := by
  have hreadEarly : read ∉ middle ++ last := by
    intro hmem
    rcases List.mem_append.1 hmem with hmem | hmem
    · exact hij (hread.symm.trans (h.middle read hmem))
    · exact hreads (h.last read hmem).2
  have hmiddle : t ∈ middle := by
    rcases List.mem_append.1 hmem with hmem | hmem
    · rcases List.mem_append.1 hmem with hmem | hmem
      · exact absurd ht (hbefore t hmem).2
      · exact absurd ((h.check t hmem).1.symm.trans ht) hij
    · rcases List.mem_append.1 hmem with hmem | hmem
      · exact hmem
      · exact absurd ((h.last t hmem).1.symm.trans ht) hij
  exact Service.mem_between hsplit hreadEarly (h.notMem_early hij hbefore hwrite hwrites) hmiddle

end

/-- **One of two changes at once can be lost**: the one has its turns
between the check of the other and its end. -/
theorem exists_lost_change {j : Nat} {new' : String} (hctx : ctx.deadline = none) (hij : i ≠ j)
    (hi : q.programs[i]? = some (s.perform ctx (.changePassword token old new)).run)
    (hj : q.programs[j]? = some (s.perform ctx (.changePassword token old new')).run)
    (h : s.Changeable now token old new b) (h' : s.Changeable now token old new' b)
    (haccounts : q.world.store.AccountsInOrder) (hb : b ∈ q.world.store.accounts) :
    ∃ check middle last,
      ((((q.run check).run middle).run last).programs[i]? = some (.done (.ok .done)) ∧
        (((q.run check).run middle).run last).programs[j]? = some (.done (.ok .done))) ∧
      s.Overtaken i j b.id new' (q.trace check) ((q.run check).trace middle)
        (((q.run check).run middle).trace last) := by
  obtain ⟨hlt, -⟩ := List.getElem?_eq_some_iff.1 hi
  obtain ⟨hlt', -⟩ := List.getElem?_eq_some_iff.1 hj
  -- the check of the one
  obtain ⟨check, w₁, hash, hrun₁, hstore₁, -, hsteps₁⟩ :=
    exists_check_turns hctx hi h haccounts hb
  let q₁ : Pool (Except (Failure ServiceError) Answer) :=
    ⟨w₁, q.programs.set i (setting ctx b.id hash)⟩
  have hj₁ : q₁.programs[j]? = some (s.perform ctx (.changePassword token old new')).run :=
    (List.getElem?_set_ne hij).trans hj
  have haccounts₁ : q₁.world.store.AccountsInOrder := hstore₁ ▸ haccounts
  have hb₁ : b ∈ q₁.world.store.accounts := hstore₁ ▸ hb
  -- all of the other
  obtain ⟨check', w₂, hash', hrun₂, hstore₂, hhash', hsteps₂⟩ :=
    exists_check_turns hctx hj₁ h' haccounts₁ hb₁
  let q₂ : Pool (Except (Failure ServiceError) Answer) :=
    ⟨w₂, q₁.programs.set j (setting ctx b.id hash')⟩
  have hj₂ : q₂.programs[j]? = some (setting ctx b.id hash') :=
    List.getElem?_set_self (by simpa [q₁] using hlt')
  have hb₂ : b ∈ q₂.world.store.accounts := hstore₂ ▸ hb₁
  obtain ⟨set', w₃, hrun₃, ⟨a, ha, hau, rfl⟩, hsteps₃⟩ := exists_set_turn hctx hj₂ ⟨b, hb₂, rfl⟩
  let q₃ : Pool (Except (Failure ServiceError) Answer) :=
    ⟨w₃, q₂.programs.set j (.done (.ok .done))⟩
  -- and the end of the one
  have hi₃ : q₃.programs[i]? = some (setting ctx b.id hash) := by
    rw [List.getElem?_set_ne hij.symm, List.getElem?_set_ne hij.symm]
    exact List.getElem?_set_self hlt
  obtain ⟨set, w₄, hrun₄, -, hsteps₄⟩ := exists_set_turn hctx hi₃ ⟨a, ha, hau⟩
  have hrun₁ : q.run check = q₁ := hrun₁
  have hrun₃ : q₁.run (check' ++ [set']) = q₃ := by
    rw [Pool.run_append, hrun₂]
    exact hrun₃
  refine ⟨check, check' ++ [set'], [set], ?_, hsteps₁, ?_, ?_, ?_⟩
  · rw [hrun₁, hrun₃, hrun₄]
    constructor
    · exact List.getElem?_set_self (List.getElem?_eq_some_iff.1 hi₃).1
    · rw [List.getElem?_set_ne hij]
      exact List.getElem?_set_self (List.getElem?_eq_some_iff.1 hj₂).1
  · rw [hrun₁, Pool.trace_append, hrun₂]
    intro t ht
    rcases List.mem_append.1 ht with ht | ht
    · exact (hsteps₂ t ht).1
    · exact (hsteps₃ t ht).1
  · rw [hrun₁, hrun₃]
    intro t ht
    rw [(hsteps₄ t ht).2.2]
    exact ⟨a, ha, hau, hhash'⟩
  · rw [hrun₁, hrun₃]
    exact fun t ht => ⟨(hsteps₄ t ht).1, (hsteps₄ t ht).2.1⟩

/-- After its owner has registered, the password of an account can be
changed to one or another. -/
theorem exists_changeable_plain : ∃ e token b, plain.Sequential {} [e] ∧
    b ∈ (plain.after {} [e]).store.accounts ∧
    plain.Changeable 0 token "password" "second" b ∧
    plain.Changeable 0 token "password" "third" b := by
  obtain ⟨e, hash, hes, -, -, hhash, hstore⟩ := exists_account_plain
  have hverify := Password.verify_of_hash hhash
  let b := Store.empty.opened 0 ⟨"owner@example.org", hash, "Owner"⟩
  have hb : b ∈ (plain.after {} [e]).store.accounts := by
    rw [hstore]
    exact List.mem_singleton_self b
  have hfits : Fits64 b.id := (by decide : Fits64 1)
  obtain ⟨token, htoken⟩ := exists_account_token ready_plain (by decide : (0 : Int) < 60)
    (by decide) hfits .access
  exact ⟨e, token, b, hes, hb, ⟨by decide, rfl, by decide, by decide, htoken, hverify⟩,
    ⟨by decide, rfl, by decide, by decide, htoken, hverify⟩⟩

/-- Two changes at once that are both given the password of an account:
both succeed, and what the one has set the other, which has checked the
earlier password, replaces. That password verifies against the hash that it
replaces only if bcrypt does not tell the two passwords apart. -/
theorem change_lost_plain : ∃ requests turns token, ∃ i j : Nat, ∃ l₁ read l₂ write l₃ u b hash,
    requests[i]? = some ⟨unhurried, .changePassword token "password" "second"⟩ ∧
    requests[j]? = some ⟨unhurried, .changePassword token "password" "third"⟩ ∧
    (((plain.start {} requests).run turns).programs[i]? = some (.done (.ok .done)) ∧
      ((plain.start {} requests).run turns).programs[j]? = some (.done (.ok .done))) ∧
    (plain.start {} requests).trace turns = l₁ ++ read :: (l₂ ++ write :: l₃) ∧
    read.program = i ∧ read.Answers (.accountById u) b ∧
    write.program = i ∧ write.Answers (.setPassword u hash) () ∧
    (∃ t ∈ l₂, ∃ hash', t.program = j ∧ t.Answers (.setPassword u hash') () ∧
      Password.verify "third" hash' = true) ∧
    ∃ a ∈ write.before.store.accounts, a.id = u ∧
      Password.hash 4 (.replicate 16 0) "third" = .ok a.passwordHash ∧
      (Password.verify "password" a.passwordHash = true ↔
        Bcrypt.digest 4 (.replicate 16 0) (Bcrypt.key "password") =
          Bcrypt.digest 4 (.replicate 16 0) (Bcrypt.key "third")) := by
  obtain ⟨e, token, b, hes, hb, hsecond, hthird⟩ := exists_changeable_plain
  let second : Request := ⟨unhurried, .changePassword token "password" "second"⟩
  let third : Request := ⟨unhurried, .changePassword token "password" "third"⟩
  let requests := [e].map Errand.request ++ [second, third]
  obtain ⟨before, hbefore⟩ := hes.exists_inTurn (List.prefix_append _ [second, third])
  let q := (plain.start {} requests).run before
  have hunbegun (t) (ht : t ∈ (plain.start {} requests).trace before) : t.program < 1 :=
    (hbefore.calm t ht).1
  have hsecond' : q.programs[1]? = some (plain.perform unhurried second.operation).run := by
    rw [Pool.getElem?_run_of_notMem before fun t ht => Nat.ne_of_lt (hunbegun t ht)]
    rfl
  have hthird' : q.programs[2]? = some (plain.perform unhurried third.operation).run := by
    rw [Pool.getElem?_run_of_notMem before fun t ht => by have := hunbegun t ht; omega]
    rfl
  rw [← hbefore.world] at hb
  obtain ⟨check, middle, last, ⟨hdone, hdone'⟩, hovertaken⟩ := exists_lost_change rfl
    (by decide) hsecond' hthird' hsecond hthird
    (plain.sound_run (w := {}) rfl requests before).ledger.accounts hb
  let turns := before ++ (check ++ (middle ++ last))
  have hrun : (plain.start {} requests).run turns = ((q.run check).run middle).run last := by
    simp only [turns, Pool.run_append, q]
  have htrace : (plain.start {} requests).trace turns =
      ((plain.start {} requests).trace before ++ q.trace check) ++
        ((q.run check).trace middle ++ ((q.run check).run middle).trace last) := by
    simp only [turns, Pool.trace_append, List.append_assoc, q]
  rw [← hrun] at hdone hdone'
  -- what the two have done, each for itself
  have hrequest : requests[1]? = some second := rfl
  have hrequest' : requests[2]? = some third := rfl
  obtain ⟨l₁, read, l₂, write, l₃, u, b, hash, hsplit, hread, hwrite, hu, hreads, -, hwrites, -, -⟩ :=
    changePassword_replaces plain (w := {}) rfl hrequest hdone
  obtain ⟨k₁, read', k₂, write', k₃, u', b', hash', hsplit', -, hwrite', hu', -, -, hwrites', hnew,
    -⟩ := changePassword_replaces plain (w := {}) rfl hrequest' hdone'
  obtain rfl := Option.some.inj (hu.symm.trans hu')
  obtain ⟨ctx, hstep⟩ := id hreads
  obtain ⟨ctx', hstep'⟩ := id hwrites
  have hreadsOnly : ¬ read.effect.SetsPassword := by
    rintro ⟨ctx₀, u₀, hash₀, heffect⟩
    cases heffect.symm.trans (congrArg Step.effect hstep)
  have hsets : write.effect.SetsPassword := ⟨ctx', u, hash, congrArg Step.effect hstep'⟩
  have hothers (t) (ht : t ∈ (plain.start {} requests).trace before) :
      t.program ≠ 1 ∧ t.program ≠ 2 := by
    have hlt := hunbegun t ht
    omega
  -- the write of the one comes last, and that of the other before it
  have hmem : write ∈ (plain.start {} requests).trace turns := by
    rw [hsplit]
    simp
  have hmem' : write' ∈ (plain.start {} requests).trace turns := by
    rw [hsplit']
    simp
  rw [htrace] at hmem hmem'
  have hbetween : write' ∈ l₂ := hovertaken.mem_between (by decide) hothers
    (htrace.symm.trans hsplit) hread hreadsOnly hwrite hsets hwrite' hmem'
  obtain ⟨a, ha, hid, hhash⟩ :=
    hovertaken.found write (hovertaken.mem_last (by decide) hothers hwrite hsets hmem)
  obtain ⟨c, hc, -, hvalue⟩ := TokenIssuer.parseAccount_eq_some_iff.1 hsecond.token
  have hb' := TokenIssuer.parseEmbeddedAccess_eq_some_iff.2 ⟨c, hc, hvalue⟩
  obtain rfl := Option.some.inj (hu.symm.trans hb')
  have hiff := Password.verify_iff_of_hash (q := "password") hhash
  rw [(rfl : plain.hashCost.toNat = 4)] at hiff
  exact ⟨requests, turns, token, 1, 2, l₁, read, l₂, write, l₃, _, _, hash, hrequest, hrequest',
    ⟨hdone, hdone'⟩, hsplit, hread, hreads, hwrite, hwrites,
    ⟨write', hbetween, hash', hwrite', hwrites', hnew⟩, a, ha, hid, hhash, hiff⟩

end Service

end SignOn
