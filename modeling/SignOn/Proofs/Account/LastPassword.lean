import SignOn.Proofs.Account.Conduct
import SignOn.Proofs.Session.Admission
/-!
# The last password

Operations are carried out one after another, in calm conditions, on a
store without rows. What an errand answers tells what it has written to
the accounts, `Service.Tracks.carryOut`. So the history says which
accounts there are, and with which password each was left
(`Service.Tracks`), and that password decides how a login is answered:
`Service.login_tracks_password`.
-/

namespace SignOn

namespace Outcome

/-- An operation has opened an account with an address. -/
def Registers (u : Int) (email : String) (o : Outcome) : Prop :=
  ∃ input, o.operation = .register input ∧ input.email = email ∧ o.result = .ok (.id u)

/-- A registration of an address was aborted. The account may be there or
not. -/
def Aborts (email : String) (o : Outcome) : Prop :=
  ∃ input, o.operation = .register input ∧ input.email = email ∧ o.result = .error .aborted

/-- An operation has set the password of an account: it has opened the
account, or it was given a token that is accepted for it, and has
succeeded. -/
def Sets (s : Service) (u : Int) (password : String) (o : Outcome) : Prop :=
  match o.operation with
  | .register input => o.result = .ok (.id u) ∧ input.password = password
  | .forgetPassword _ new | .changePassword _ _ new =>
    (∃ a, o.result = .ok a) ∧ s.admitted? o.time o.operation = some u ∧ new = password
  | _ => False

variable {s : Service} {o : Outcome} {u : Int} {password password' : String}

/-- It has set one password. -/
theorem Sets.unique (h : o.Sets s u password) (h' : o.Sets s u password') :
    password = password' := by
  obtain ⟨op, now, r⟩ := o
  cases op with
  | register input => exact h.2.symm.trans h'.2
  | forgetPassword _ _ | changePassword _ _ _ => exact h.2.2.symm.trans h'.2.2
  | _ => exact h.elim

/-- Whoever has registered has set a password. -/
theorem Registers.exists_sets {email : String} (h : o.Registers u email) :
    ∃ p, o.Sets s u p := by
  obtain ⟨op, now, r⟩ := o
  obtain ⟨input, rfl, -, hresult⟩ := h
  exact ⟨input.password, hresult, rfl⟩

/-- Whoever has registered has written, and so has whoever has set a
password. -/
theorem not_registers_of_idle {op : Operation} {now : Int}
    {r : Except (Failure ServiceError) Answer} (h : ∀ a, r = .ok a → op.writes = false)
    {email : String} : ¬ (Outcome.mk op now r).Registers u email := by
  rintro ⟨input, rfl, -, rfl⟩
  cases h _ rfl

theorem not_sets_of_idle {op : Operation} {now : Int} {r : Except (Failure ServiceError) Answer}
    (h : ∀ a, r = .ok a → op.writes = false) : ¬ (Outcome.mk op now r).Sets s u password := by
  intro hsets
  cases op with
  | register input => cases h _ hsets.1
  | forgetPassword _ _ | changePassword _ _ _ =>
    obtain ⟨⟨a, rfl⟩, -⟩ := hsets
    cases h a rfl
  | _ => exact hsets

end Outcome

/-- The password that an account was left with, by a history: the one that
was set last. -/
def LastPassword (s : Service) (h : List Outcome) (u : Int) (password : String) : Prop :=
  Standing (Outcome.Sets s u password) (fun o => ∃ p, o.Sets s u p) h

/-- It is one password. -/
theorem LastPassword.unique {s : Service} {h : List Outcome} {u : Int} {p p' : String}
    (hp : LastPassword s h u p) (hp' : LastPassword s h u p') : p = p' := by
  induction h using List.reverseRecOn with
  | nil => exact absurd hp not_standing_nil
  | append_singleton h o ih =>
    rcases standing_concat.1 hp with hsets | ⟨hp, hnone⟩ <;>
      rcases standing_concat.1 hp' with hsets' | ⟨hp', hnone'⟩
    · exact hsets.unique hsets'
    · exact absurd ⟨p, hsets⟩ hnone'
    · exact absurd ⟨p', hsets'⟩ hnone
    · exact ih hp hp'

namespace Service

open Procedure

variable {s : Service} {w : World} {es : List Errand} {e : Errand}

/-! ## What an errand does to accounts -/

/-- What became of an errand. -/
abbrev outcome (s : Service) (w : World) (e : Errand) : Outcome :=
  ⟨e.operation, e.time, (s.carryOut w e).result⟩

variable {q : Query} {r : q.Answer} {before after : Store} {a : Account}

/-- The account that an errand has added is one that it has registered, and
has set the password of, or the registration was aborted. -/
theorem WroteWith.of_added (h : s.WroteWith w e q r before after)
    (hadded : q.added? e.time before = some a) :
    ((s.outcome w e).Registers a.id a.email ∧
      ∃ p, (s.outcome w e).Sets s a.id p ∧ s.Hashes p a.passwordHash) ∨
    (s.outcome w e).Aborts a.email ∧ ∀ u email, ¬ (s.outcome w e).Registers u email := by
  obtain ⟨ctx, op, now, draws⟩ := e
  obtain ⟨⟨h₁, hmay, -⟩, -, hrun, -, hresult⟩ := h
  cases hmay with
  | @register input _ hash hhash =>
    obtain ⟨-, rfl, -⟩ := Store.insertAccount_eq_ok_iff.1 hrun
    obtain rfl := Option.some.inj hadded
    rcases hresult with hresult | ⟨hresult, -⟩
    · exact .inl ⟨⟨input, rfl, rfl, hresult⟩, input.password, ⟨hresult, rfl⟩, hhash.hashes⟩
    · refine .inr ⟨⟨input, rfl, rfl, hresult⟩, ?_⟩
      rintro u email ⟨_, -, -, hid⟩
      cases hresult.symm.trans hid
  | _ => cases hadded

/-- It has the next number. -/
theorem WroteWith.id_of_added (h : s.WroteWith w e q r before after)
    (hadded : q.added? e.time before = some a) : a.id = w.store.lastAccountId + 1 := by
  obtain ⟨ctx, op, now, draws⟩ := e
  obtain ⟨⟨h₁, hmay, -⟩, hopened, -⟩ := h
  cases hmay with
  | register hhash =>
    obtain rfl := Option.some.inj hadded
    exact congrArg (· + 1) hopened.2
  | _ => cases hadded

/-- It has registered no other one. -/
theorem WroteWith.added_of_registers (h : s.WroteWith w e q r before after) {u : Int}
    {email : String} (hregisters : (s.outcome w e).Registers u email) :
    ∃ a, q.added? e.time before = some a ∧ a.id = u ∧ a.email = email := by
  obtain ⟨ctx, op, now, draws⟩ := e
  obtain ⟨⟨h₁, hmay, -⟩, -, hrun, -, hresult⟩ := h
  obtain ⟨input, rfl, rfl, hid⟩ := hregisters
  have hresult := hresult.resolve_right fun haborted => by cases haborted.1.symm.trans hid
  cases hmay with
  | @register _ _ hash hhash =>
    obtain ⟨-, rfl, -⟩ := Store.insertAccount_eq_ok_iff.1 hrun
    obtain rfl := SignOn.Answer.id.inj (Except.ok.inj (hresult.symm.trans hid))
    exact ⟨_, rfl, rfl, rfl⟩

/-- A password is set by whoever has the token of the account. -/
theorem password_of_setPassword {u : Int} {hash p : String} {now : Int} {o : Outcome}
    (hsets : ∀ u' p', o.Sets s u' p' ↔ u' = u ∧ p' = p) (hhash : s.Hashes p hash) :
    (((Query.setPassword u hash).revise now a).passwordHash = a.passwordHash ∧
        ∀ p, ¬ o.Sets s a.id p) ∨
      ∃ p, o.Sets s a.id p ∧ s.Hashes p ((Query.setPassword u hash).revise now a).passwordHash := by
  by_cases hid : a.id = u
  · refine .inr ⟨p, (hsets _ _).2 ⟨hid, rfl⟩, ?_⟩
    rwa [Query.revise, if_pos hid]
  · refine .inl ⟨?_, fun p' h => hid ((hsets _ _).1 h).1⟩
    rw [Query.revise, if_neg hid]

/-- **The password of an account that was there** is the one that was set,
or what it was, if none was set. -/
theorem WroteWith.password (h : s.WroteWith w e q r before after)
    (horder : w.store.AccountsInOrder) (ha : a ∈ w.store.accounts) :
    ((q.revise e.time a).passwordHash = a.passwordHash ∧
        ∀ p, ¬ (s.outcome w e).Sets s a.id p) ∨
      ∃ p, (s.outcome w e).Sets s a.id p ∧ s.Hashes p (q.revise e.time a).passwordHash := by
  obtain ⟨ctx, op, now, draws⟩ := e
  obtain ⟨⟨h₁, hmay, hclock, -⟩, hopened, hrun, -, hresult⟩ := h
  cases hmay with
  | register hhash =>
    -- the new account has another number
    refine .inl ⟨rfl, fun p hsets => ?_⟩
    obtain ⟨-, hid, -⟩ := Store.insertAccount_eq_ok_iff.1 hrun
    rw [hopened.2] at hid
    have hresult := hresult.resolve_right fun haborted => by cases haborted.1.symm.trans hsets.1
    have hnext : a.id = w.store.lastAccountId + 1 :=
      (SignOn.Answer.id.inj (Except.ok.inj (hresult.symm.trans hsets.1))).symm.trans hid
    have hle := horder.le_last a ha
    omega
  | verifyEmail | updateProfile =>
    refine .inl ⟨(Query.passwordHash_revise _ _ _).resolve_right ?_, fun p hsets => hsets⟩
    rintro ⟨hash, heq, -⟩
    cases heq
  | forgetPassword hu _ _ hhash | changePassword _ hu _ _ hhash =>
    have hadmitted := admitted?_of_admits hclock hu
    have hresult := hresult.resolve_right fun haborted => by
      obtain ⟨-, input, hop⟩ := haborted
      cases hop
    refine password_of_setPassword (fun u' p' => ⟨?_, ?_⟩) hhash.hashes
    · rintro ⟨-, hu', rfl⟩
      exact ⟨admitted?_unique hu' hadmitted, rfl⟩
    · rintro ⟨rfl, rfl⟩
      exact ⟨⟨_, hresult⟩, hadmitted, rfl⟩

/-! ## What a history says about the accounts -/

/-- What a history says about the accounts of a store: which there are,
and with which password each was left. An account that was not registered
is one whose registration was aborted. -/
structure Tracks (s : Service) (h : List Outcome) (store : Store) : Prop where
  order : store.AccountsInOrder
  there : ∀ u email, (∃ o ∈ h, o.Registers u email) →
    ∃ a ∈ store.accounts, a.id = u ∧ a.email = email
  registered : ∀ a ∈ store.accounts,
    (∃ o ∈ h, o.Registers a.id a.email) ∨ ∃ o ∈ h, o.Aborts a.email
  password : ∀ a ∈ store.accounts, (∃ o ∈ h, o.Registers a.id a.email) →
    ∃ p, LastPassword s h a.id p ∧ s.Hashes p a.passwordHash

theorem tracks_nil {store : Store} (h : store = .empty) : s.Tracks [] store := by
  subst h
  exact ⟨Store.accountsInOrder_empty, by simp, by simp [Store.empty], by simp [Store.empty]⟩

/-- **An errand keeps to what the history says.** -/
theorem Tracks.carryOut {l : List Outcome} (h : s.Tracks l w.store)
    (hcalm : ∀ t ∈ s.stepsTaken w e, t.Calm e.time) :
    s.Tracks (l ++ [s.outcome w e]) (s.carryOut w e).world.store := by
  have horder := (s.leads_carryOut w e).accountsInOrder h.order
  -- what was registered before stays so
  have hregistered {a : Account} (ha : a ∈ w.store.accounts) :
      (∃ o ∈ l ++ [s.outcome w e], o.Registers a.id a.email) ∨
        ∃ o ∈ l ++ [s.outcome w e], o.Aborts a.email :=
    (h.registered a ha).imp (fun ⟨o, ho, hr⟩ => ⟨o, List.mem_append_left _ ho, hr⟩)
      fun ⟨o, ho, hr⟩ => ⟨o, List.mem_append_left _ ho, hr⟩
  -- and has the password that it was left with, if none is set now
  have hpassword {a : Account} (ha : a ∈ w.store.accounts)
      (hnone : ∀ p, ¬ (s.outcome w e).Sets s a.id p)
      (hregisters : ∃ o ∈ l ++ [s.outcome w e], o.Registers a.id a.email) :
      ∃ p, LastPassword s (l ++ [s.outcome w e]) a.id p ∧ s.Hashes p a.passwordHash := by
    obtain ⟨o, ho, hr⟩ := hregisters
    rcases List.mem_append.1 ho with ho | ho
    · obtain ⟨p, hp, hhash⟩ := h.password a ha ⟨o, ho, hr⟩
      exact ⟨p, standing_concat.2 (.inr ⟨hp, fun ⟨p', hp'⟩ => hnone p' hp'⟩), hhash⟩
    · rw [List.mem_singleton.1 ho] at hr
      obtain ⟨p, hp⟩ := hr.exists_sets (s := s)
      exact absurd hp (hnone p)
  rcases carryOut_cases hcalm with ⟨hsame, hidle⟩ | ⟨q, r, before, after, hwrote⟩
  · refine ⟨horder, fun u email hregisters => ?_, fun a ha => ?_, fun a ha => ?_⟩
    · rw [hsame.1]
      refine h.there u email ?_
      simpa [Outcome.not_registers_of_idle hidle] using hregisters
    · rw [hsame.1] at ha
      exact hregistered ha
    · rw [hsame.1] at ha
      exact hpassword ha fun p => Outcome.not_sets_of_idle hidle
  · have haccounts : (s.carryOut w e).world.store.accounts =
        w.store.accounts.map (q.revise e.time) ++ (q.added? e.time before).toList := by
      rw [hwrote.closed.1, (Store.accounts_eq_of_run hwrote.run).1, hwrote.opened.1]
    refine ⟨horder, fun u email => ?_, fun a ha => ?_, fun a ha hregisters => ?_⟩
    · rintro ⟨o, ho, hregisters⟩
      rw [haccounts]
      rcases List.mem_append.1 ho with ho | ho
      · obtain ⟨a, ha, hid, hemail⟩ := h.there u email ⟨o, ho, hregisters⟩
        exact ⟨_, List.mem_append_left _ (List.mem_map_of_mem ha), by simpa using hid,
          by simpa using hemail⟩
      · rw [List.mem_singleton.1 ho] at hregisters
        obtain ⟨a, ha, hid, hemail⟩ := hwrote.added_of_registers hregisters
        exact ⟨a, List.mem_append_right _ (Option.mem_toList.2 ha), hid, hemail⟩
    · rw [haccounts] at ha
      rcases List.mem_append.1 ha with ha | ha
      · obtain ⟨b, hb, rfl⟩ := List.mem_map.1 ha
        rw [Query.revise_id, Query.revise_email]
        exact hregistered hb
      · refine (hwrote.of_added (Option.mem_toList.1 ha)).imp (fun hr => ?_) fun hr => ?_
        · exact ⟨_, List.mem_append_right _ (List.mem_singleton_self _), hr.1⟩
        · exact ⟨_, List.mem_append_right _ (List.mem_singleton_self _), hr.1⟩
    · rw [haccounts] at ha
      rcases List.mem_append.1 ha with ha | ha
      · obtain ⟨b, hb, rfl⟩ := List.mem_map.1 ha
        rw [Query.revise_id, Query.revise_email] at hregisters
        rw [Query.revise_id]
        rcases hwrote.password h.order hb with ⟨hsame, hnone⟩ | ⟨p, hp, hhash⟩
        · rw [hsame]
          exact hpassword hb hnone hregisters
        · exact ⟨p, standing_concat.2 (.inl hp), hhash⟩
      · rcases hwrote.of_added (Option.mem_toList.1 ha) with ⟨-, p, hp, hhash⟩ | ⟨-, hnone⟩
        · exact ⟨p, standing_concat.2 (.inl hp), hhash⟩
        · -- nobody had the number of the new account before
          obtain ⟨o, ho, hr⟩ := hregisters
          rcases List.mem_append.1 ho with ho | ho
          · obtain ⟨b, hb, hid, -⟩ := h.there _ _ ⟨o, ho, hr⟩
            have hle := h.order.le_last b hb
            have hnext := hwrote.id_of_added (Option.mem_toList.1 ha)
            omega
          · rw [List.mem_singleton.1 ho] at hr
            exact absurd hr (hnone _ _)

/-- **The history keeps track of the accounts.** -/
theorem Sequential.tracks (h : s.Sequential w es) (hw : w.store = .empty) :
    s.Tracks (s.history w es) (s.after w es).store := by
  induction es using List.reverseRecOn with
  | nil => exact tracks_nil hw
  | append_singleton es e ih =>
    rw [history_concat, after_concat]
    exact (ih h.of_concat).carryOut (calmly_concat.1 h.calmly).2

/-- No registration was aborted, if the token to confirm the address always
expires within the 64-bit numbers. -/
theorem Sequential.not_aborts (h : s.Sequential w es)
    (hfits : ∀ e ∈ es, Fits64 (e.time + s.issuer.verifyEmailTtl)) {email : String} :
    ∀ o ∈ s.history w es, ¬ o.Aborts email := by
  induction es using List.reverseRecOn with
  | nil => simp [history]
  | append_singleton es e ih =>
    intro o ho
    rw [history_concat] at ho
    rcases List.mem_append.1 ho with ho | ho
    · exact ih h.of_concat (fun e' he' => hfits e' (List.mem_append_left _ he')) o ho
    · rw [List.mem_singleton.1 ho]
      rintro ⟨input, hop, -, hresult⟩
      have hmeets : Meets (.calm e.time) (fun _ _ => True) (fun _ e => ∃ err, e = .reported err)
          (s.perform e.ctx (.register input)) ((s.after w es).scene (s.drawnBy w es)) :=
        meets_map.2 (register_reported (fun _ _ => trivial) fun _ m _ hm => by
          rw [hm.1]
          exact hfits e (by simp))
      have hop : e.operation = .register input := hop
      rw [← hop] at hmeets
      have hreported := h.carryOut_of_meets hmeets
      change (s.carryOut (s.after w es) e).result = .error .aborted at hresult
      rw [hresult] at hreported
      obtain ⟨err, herr⟩ := hreported
      cases herr

/-- **Then every account was registered.** -/
theorem Sequential.registered (h : s.Sequential w es) (hw : w.store = .empty)
    (hfits : ∀ e ∈ es, Fits64 (e.time + s.issuer.verifyEmailTtl))
    (ha : a ∈ (s.after w es).store.accounts) :
    ∃ o ∈ s.history w es, o.Registers a.id a.email := by
  refine ((h.tracks hw).registered a ha).resolve_right ?_
  rintro ⟨o, ho, haborts⟩
  exact h.not_aborts hfits o ho haborts

/-! ## How a login is answered -/

variable {σ : Scene} {now : Int} {ctx : RequestContext} {email password : String}

/-- Why a login is refused: nobody has the address, or its owner has not
confirmed it, or has another password. -/
inductive LoginRefused (store : Store) (email password : String) : Failure ServiceError → Prop
  | unknown (hnone : ∀ a ∈ store.accounts, a.email ≠ email) :
      LoginRefused store email password (.reported .accountNotFound)
  | unconfirmed {a : Account} (ha : a ∈ store.accounts) (hemail : a.email = email)
      (hconfirmed : a.emailConfirmed = false) :
      LoginRefused store email password (.reported .emailNotConfirmed)
  | wrong {a : Account} (ha : a ∈ store.accounts) (hemail : a.email = email)
      (hconfirmed : a.emailConfirmed = true)
      (hwrong : Password.verify password a.passwordHash = false) :
      LoginRefused store email password (.reported .wrongPassword)

/-- **A login succeeds if it is admitted**, and else says why not. -/
theorem login_answers_calm (hσ : s.Consistent now σ) (hj : s.issuer.Ready now)
    (hfits : Fits64 σ.store.lastAccountId) :
    Meets (.calm now) (fun _ _ => Admitted σ.store email password)
      (fun _ e => LoginRefused σ.store email password e) (s.login ctx email password) σ := by
  refine meets_bind.2 (meets_calm_ask (fun a store hrun => ?_) fun e hrun => ?_)
  · obtain ⟨hfound, hsame⟩ := Store.unchanged_eq_ok_iff.1 hrun
    obtain rfl : store = σ.store := hsame
    obtain ⟨ha, hemail⟩ := Store.mem_of_accountByEmail hfound
    refine meets_bind.2 (meets_require.2 ⟨fun hconfirmed => ?_, fun hnot => ?_⟩)
    · refine meets_bind.2 (verifyPassword_calm (meets_bind.2 (meets_require.2
        ⟨fun hright => ?_, fun hwrong => ?_⟩)))
      · exact (replaceSession_calm hσ hj (hσ.fits_of_mem hfits ha) ⟨a, ha, rfl⟩).mono
          (fun _ _ _ => ⟨a, ha, hemail, hconfirmed, hright⟩) fun _ _ he => he.elim
      · exact .wrong ha hemail hconfirmed hwrong
    · exact .unconfirmed ha hemail hnot
  · obtain ⟨rfl, hnone⟩ :=
      Store.accountByEmail_eq_error_iff.1 (Store.unchanged_eq_error_iff.1 hrun)
    exact .unknown hnone

/-- What a login comes to that is next. -/
theorem Sequential.login_cases (h : s.Sequential w (es ++ [e])) (hw : w.store = .empty)
    (hfits : Fits64 (s.after w es).store.lastAccountId)
    (hop : e.operation = .login email password) :
    (Admitted (s.after w es).store email password ∧
        ∃ p, (s.carryOut (s.after w es) e).result = .ok (.pair p)) ∨
      ∃ err, LoginRefused (s.after w es).store email password err ∧
        (s.carryOut (s.after w es) e).result = .error err := by
  have hconsistent := (h.of_concat.holds_iff hw hfits h.time_le).1
  have hmeets : Meets (.calm e.time)
      (fun _ a => Admitted (s.after w es).store email password ∧ ∃ p, a = Answer.pair p)
      (fun _ err => LoginRefused (s.after w es).store email password err)
      (s.perform e.ctx (.login email password)) ((s.after w es).scene (s.drawnBy w es)) :=
    meets_map.2 ((login_answers_calm hconsistent (h.ready e (by simp)) hfits).mono
      (fun _ p hadmitted => ⟨hadmitted, p, rfl⟩) fun _ _ he => he)
  rw [← hop] at hmeets
  have hresult := h.carryOut_of_meets hmeets
  cases hr : (s.carryOut (s.after w es) e).result with
  | ok a =>
    rw [hr] at hresult
    obtain ⟨hadmitted, p, rfl⟩ := hresult
    exact .inl ⟨hadmitted, p, rfl⟩
  | error err =>
    rw [hr] at hresult
    exact .inr ⟨err, hresult, rfl⟩

/-- How a login of an account is answered. -/
def LoginAnswered (a : Account) (password : String) (r : Except (Failure ServiceError) Answer) :
    Prop :=
  (a.emailConfirmed = false → r = .error (.reported .emailNotConfirmed)) ∧
  (a.emailConfirmed = true → Password.verify password a.passwordHash = true →
    ∃ p, r = .ok (.pair p)) ∧
  (a.emailConfirmed = true → Password.verify password a.passwordHash = false →
    r = .error (.reported .wrongPassword))

/-- A login of an account that is there is answered by what the account is
like. -/
theorem Sequential.loginAnswered (h : s.Sequential w (es ++ [e])) (hw : w.store = .empty)
    (hfits : Fits64 (s.after w es).store.lastAccountId) {a : Account}
    (ha : a ∈ (s.after w es).store.accounts) (hop : e.operation = .login a.email password) :
    LoginAnswered a password (s.carryOut (s.after w es) e).result := by
  have horder := (h.of_concat.tracks hw).order
  rcases h.login_cases hw hfits hop with ⟨⟨b, hb, hemail, hconfirmed, hright⟩, p, hp⟩ |
    ⟨err, hrefused, herr⟩
  · obtain rfl := horder.eq_of_email_eq hb ha hemail
    exact ⟨by simp [hconfirmed], fun _ _ => ⟨p, hp⟩, by simp [hright]⟩
  · rw [herr]
    cases hrefused with
    | unknown hnone => exact absurd rfl (hnone a ha)
    | unconfirmed hb hemail hconfirmed =>
      obtain rfl := horder.eq_of_email_eq hb ha hemail
      exact ⟨fun _ => rfl, by simp [hconfirmed], by simp [hconfirmed]⟩
    | wrong hb hemail hconfirmed hwrong =>
      obtain rfl := horder.eq_of_email_eq hb ha hemail
      exact ⟨by simp [hconfirmed], by simp [hwrong], fun _ _ => rfl⟩

/-- **A login goes by the last password.** Operations are carried out one
after another on a store without rows, in calm conditions. Then whoever
was registered is there, with a hash of the password that was set last for
the account, when it was registered, or by a reset or a change of the
password that succeeded; and nothing else has a part in that. The password
verifies against the hash, and has no more than 72 bytes. A login with the
address succeeds if the address is confirmed and the password verifies
against the hash, and says what is wrong otherwise. A login with an
address that was not registered finds no account, if the tokens that
confirm addresses expired within the 64-bit numbers. -/
theorem login_tracks_password (s : Service) {w : World} (hw : w.store = .empty)
    (es : List Errand) (h : s.Sequential w es)
    (hfits : Fits64 (s.after w es).store.lastAccountId) :
    (∀ u email, (∃ o ∈ s.history w es, o.Registers u email) →
      ∃ a ∈ (s.after w es).store.accounts, a.id = u ∧ a.email = email ∧
        ∃ p, LastPassword s (s.history w es) u p ∧ s.Hashes p a.passwordHash ∧
          Password.verify p a.passwordHash = true ∧ Utf8.size p ≤ Password.maxBytes ∧
          ∀ e q, s.Sequential w (es ++ [e]) → e.operation = .login email q →
            LoginAnswered a q (s.carryOut (s.after w es) e).result) ∧
    ∀ e email q, s.Sequential w (es ++ [e]) → e.operation = .login email q →
      (∀ e ∈ es, Fits64 (e.time + s.issuer.verifyEmailTtl)) →
      (∀ u, ∀ o ∈ s.history w es, ¬ o.Registers u email) →
      (s.carryOut (s.after w es) e).result = .error (.reported .accountNotFound) := by
  have htracks := h.tracks hw
  refine ⟨fun u email hregisters => ?_, fun e email q hnext hop hexpire hnone => ?_⟩
  · obtain ⟨a, ha, rfl, rfl⟩ := htracks.there u email hregisters
    obtain ⟨p, hp, salt, hhash⟩ := htracks.password a ha hregisters
    exact ⟨a, ha, rfl, rfl, p, hp, ⟨salt, hhash⟩, Password.verify_of_hash hhash,
      Password.size_le_of_hash hhash, fun e q hnext hop => hnext.loginAnswered hw hfits ha hop⟩
  · have hunknown : ∀ a ∈ (s.after w es).store.accounts, a.email ≠ email := by
      rintro a ha rfl
      obtain ⟨o, ho, hregisters⟩ := h.registered hw hexpire ha
      exact hnone a.id o ho hregisters
    rcases hnext.login_cases hw hfits hop with ⟨⟨a, ha, hemail, -⟩, -⟩ | ⟨err, hrefused, herr⟩
    · exact absurd hemail (hunknown a ha)
    · cases hrefused with
      | unknown => exact herr
      | unconfirmed ha hemail | wrong ha hemail => exact absurd hemail (hunknown _ ha)

/-- A login with the last password of an account whose address is
confirmed. -/
theorem login_tracks_password_plain : ∃ es e u email p t, plain.Sequential {} (es ++ [e]) ∧
    (∃ o ∈ plain.history {} es, o.Registers u email) ∧
    LastPassword plain (plain.history {} es) u p ∧ e.operation = .login email p ∧
    (plain.carryOut (plain.after {} es) e).result = .ok (.pair t) := by
  obtain ⟨es, e, p, hes, hnow, hop, hp, hfits, -⟩ :=
    exists_session acceptable_plain ready_plain (by decide) (by decide) (w := {}) rfl
  replace hfits := fits_of_concat (w := {}) rfl hfits
  have htracks := hes.of_concat.tracks (w := {}) rfl
  -- whoever can log in was registered
  rcases hes.login_cases rfl hfits hop with ⟨⟨a, ha, hemail, hconfirmed, -⟩, -⟩ | ⟨err, -, herr⟩
  swap
  · cases hp.symm.trans herr
  have hregisters := hes.of_concat.registered rfl (fun e' he' => by
    rw [hnow e' (List.mem_append_left _ he')]
    decide) ha
  rw [hemail] at hregisters
  obtain ⟨hlast, -⟩ := login_tracks_password plain (w := {}) rfl es hes.of_concat hfits
  obtain ⟨b, hb, hid, -, p, hpassword, -, hverify, -, hanswered⟩ := hlast _ _ hregisters
  obtain rfl := htracks.order.eq_of_id_eq hb ha hid
  obtain ⟨draws, hnext⟩ := hes.of_concat.exists_concat (.login "owner@example.org" p) unhurried rfl
    (fun e' he' => Int.le_of_eq (hnow e' (List.mem_append_left _ he'))) ready_plain
  obtain ⟨-, hright, -⟩ := hanswered _ p hnext rfl
  obtain ⟨t, ht⟩ := hright hconfirmed hverify
  exact ⟨es, _, b.id, _, p, t, hnext, hregisters, hpassword, rfl, ht⟩

end Service

end SignOn
