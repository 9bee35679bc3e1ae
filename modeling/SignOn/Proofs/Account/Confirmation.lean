import SignOn.Proofs.Account.Conduct
import SignOn.Proofs.Session.Admission
/-!
# An address is confirmed once

A call that confirms an address looks at the account first, and confirms
the address in a step of its own. In between another one may do so, and
then the store refuses: `Leads.not_confirmEmail_again`. So whoever is
confirmed has been confirmed by one call, and every other one is told that
the address is confirmed, `Service.confirmation_once`.
-/

namespace SignOn

/-- **An address that was confirmed** is not confirmed again. -/
theorem Leads.not_confirmEmail_again {w w' : World} {l₁ l₂ l₃ : List Transition}
    {t t' : Transition} (h : Leads w (l₁ ++ t :: (l₂ ++ t' :: l₃)) w')
    (hw : w.store.AccountsInOrder) {u : Int} (ht : t.Answers (.confirmEmail u) ()) :
    ¬ t'.Answers (.confirmEmail u) () := by
  intro ht'
  have hrun := Transition.run_of_answers ht
  have hbefore : t.before.store.AccountsInOrder := h.split.1.accountsInOrder hw
  have hafter : t.after.store.AccountsInOrder := hbefore.run hrun
  obtain ⟨-, hconfirmed⟩ := hbefore.confirmed_of_confirmEmail (Store.changed_eq_ok_iff.1 hrun)
  -- it stays confirmed until the other step
  obtain ⟨hunconfirmed, -⟩ := (h.between.accountsInOrder hafter).confirmed_of_confirmEmail
    (Store.changed_eq_ok_iff.1 (Transition.run_of_answers ht'))
  exact hunconfirmed (hconfirmed.mono h.between.accountsRemain)

/-- So two steps that confirm one address are one step. -/
theorem Leads.eq_of_confirmEmail {w w' : World} {l : List Transition} {t t' : Transition}
    (h : Leads w l w') (hw : w.store.AccountsInOrder) (ht : t ∈ l) (ht' : t' ∈ l) {u : Int}
    (hconfirms : t.Answers (.confirmEmail u) ()) (hconfirms' : t'.Answers (.confirmEmail u) ()) :
    t = t' := by
  by_contra hne
  obtain ⟨l₁, l₂, l₃, rfl | rfl⟩ := exists_between_of_ne ht ht' hne
  · exact h.not_confirmEmail_again hw hconfirms hconfirms'
  · exact h.not_confirmEmail_again hw hconfirms' hconfirms

/-- What a step has confirmed is confirmed. -/
theorem Leads.confirmed_of_mem {w w' : World} {l : List Transition} {t : Transition}
    (h : Leads w l w') (hw : w.store.AccountsInOrder) (ht : t ∈ l) {u : Int}
    (hconfirms : t.Answers (.confirmEmail u) ()) : w'.store.Confirmed u := by
  obtain ⟨l₁, l₂, -, hbefore, hafter⟩ := h.split_of_mem ht
  obtain ⟨-, hconfirmed⟩ := (hbefore.accountsInOrder hw).confirmed_of_confirmEmail
    (Store.changed_eq_ok_iff.1 (Transition.run_of_answers hconfirms))
  exact hconfirmed.mono hafter.accountsRemain

/-- A step confirms an address, and no other one does. -/
def ConfirmsOnce (l : List Transition) (u : Int) (t : Transition) : Prop :=
  t.Answers (.confirmEmail u) () ∧ ∃ l₁ l₂, l = l₁ ++ t :: l₂ ∧
    ∀ t' ∈ l₁ ++ l₂, ¬ t'.Answers (.confirmEmail u) ()

/-- **Who is confirmed in the end** was confirmed by one step, if nobody
was there in the beginning. -/
theorem Leads.confirmed_iff {w w' : World} {l : List Transition} (h : Leads w l w')
    (hw : w.store = .empty) {u : Int} :
    w'.store.Confirmed u ↔ ∃ t, ConfirmsOnce l u t := by
  have horder : w.store.AccountsInOrder := hw ▸ Store.accountsInOrder_empty
  constructor
  · intro hconfirmed
    rcases h.confirmed_cases hconfirmed with ⟨a, ha, -⟩ | ⟨t, ht, hconfirms⟩
    · rw [hw] at ha
      cases ha
    · obtain ⟨l₁, l₂, rfl⟩ := List.append_of_mem ht
      refine ⟨t, hconfirms, l₁, l₂, rfl, fun t' ht' hconfirms' => ?_⟩
      rcases List.mem_append.1 ht' with ht' | ht'
      · obtain ⟨k₁, k₂, rfl⟩ := List.append_of_mem ht'
        rw [List.append_assoc] at h
        exact h.not_confirmEmail_again horder hconfirms' hconfirms
      · obtain ⟨k₁, k₂, rfl⟩ := List.append_of_mem ht'
        exact h.not_confirmEmail_again horder hconfirms hconfirms'
  · rintro ⟨t, hconfirms, l₁, l₂, rfl, -⟩
    exact h.confirmed_of_mem horder (by simp) hconfirms

/-! ## A call that nothing disturbs -/

/-- What a step tells a call that confirms the address of an account which
is there, if nothing disturbs it: its token is accepted, and it fails only
if the address is confirmed. -/
structure Step.TellsOwner (accepts : Int → Prop) (u : Int) (confirmed : Prop) (x : Step) :
    Prop where
  clock : ∀ m, x = ⟨.clock, m⟩ → accepts m.seconds
  found : ∀ ctx a, x = ⟨.query ctx (.accountById u), .ok a⟩ → a.emailConfirmed = true → confirmed
  there : ∀ ctx e, x ≠ ⟨.query ctx (.accountById u), .error e⟩
  refused : ∀ ctx e, x = ⟨.query ctx (.confirmEmail u), .error e⟩ →
    (∃ what, e = .conflict what) ∧ confirmed

/-- The setting of such steps. -/
abbrev Setting.tellsOwner (accepts : Int → Prop) (u : Int) (confirmed : Prop) :
    Setting (List Step) :=
  .history (fun _ _ => True) fun e r => Step.TellsOwner accepts u confirmed ⟨e, r⟩

/-- A step that nothing disturbs tells what is so from then on. -/
theorem Transition.Undisturbed.tellsOwner {t : Transition} {l : List Transition} {w : World}
    (h : t.Undisturbed) {accepts : Int → Prop} {u : Int}
    (haccepts : t.effect = .clock → accepts t.time)
    (ha : ∃ a ∈ t.before.store.accounts, a.id = u) (hafter : Leads t.after l w) :
    t.step.TellsOwner accepts u (w.store.Confirmed u) where
  clock m hstep := by
    rw [seconds_eq_time hstep]
    exact haccepts (congrArg Step.effect hstep)
  found ctx a hstep hconfirmed := by
    obtain ⟨hfound, hsame⟩ := Store.unchanged_eq_ok_iff.1
      (Transition.run_of_answers (q := .accountById u) (x := a) ⟨ctx, hstep⟩)
    obtain ⟨hmem, hid⟩ := Store.mem_of_accountById hfound
    rw [← hsame] at hmem
    exact Store.Confirmed.mono ⟨a, hmem, hid, hconfirmed⟩ hafter.accountsRemain
  there ctx e hstep := by
    exact Store.accountById_ne_error ha
      (Store.unchanged_eq_error_iff.1 (h.faultless.run_eq_error hstep))
  refused ctx e hstep := by
    obtain ⟨rfl, hconfirmed⟩ := Store.confirmEmail_eq_error ha
      (Store.changed_eq_error_iff.1 (h.faultless.run_eq_error hstep))
    have hstep' : Leads t.before (t :: l) w := ⟨rfl, hafter⟩
    exact ⟨⟨_, rfl⟩, hconfirmed.mono hstep'.accountsRemain⟩

namespace Service

open Procedure

variable {s : Service} {ctx : RequestContext} {token : String} {u : Int}

/-- **A call that confirms an address** fails only if that has been done,
if nothing disturbs it. -/
theorem verifyEmail_told {confirmed : Prop}
    (haccepted : ∃ now, s.admitted? now (.verifyEmail token) = some u) :
    Meets (.tellsOwner (fun now => s.admitted? now (.verifyEmail token) = some u) u confirmed)
      (fun _ _ => True) (fun _ e => e = .reported .emailAlreadyConfirmed ∧ confirmed)
      (s.verifyEmail ctx token) [] := by
  obtain ⟨now, haccepted⟩ := haccepted
  obtain ⟨t, hunwrap, -⟩ := namedByOpaque?_eq_some_iff.1 haccepted
  -- the token is for the account, and it is accepted
  refine meets_bind.2 (meets_bind.2 ?_)
  rw [unwrap, hunwrap]
  refine meets_bind.2 (meets_history_now trivial fun m hm => ?_)
  have hparse := hm.clock m rfl
  rw [admitted?, namedByOpaque?, hunwrap] at hparse
  refine meets_expect.2 ⟨fun u' hu' => ?_, fun hnone => ?_⟩
  · obtain rfl := Option.some.inj (hparse.symm.trans hu')
    -- the account is there
    refine meets_bind.2 (meets_history_ask trivial (fun a ha => ?_) fun e he => ?_)
    · refine meets_bind.2 (meets_require.2 ⟨fun _ => ?_, fun hconfirmed => ?_⟩)
      · refine meets_history_ask trivial (fun _ _ => trivial) fun e he => ?_
        obtain ⟨⟨what, rfl⟩, hconfirmed⟩ := he.refused _ _ rfl
        exact ⟨rfl, hconfirmed⟩
      · exact ⟨rfl, ha.found _ _ rfl (by simpa using hconfirmed)⟩
    · exact absurd rfl (he.there _ _)
  · cases hparse.symm.trans hnone

/-- **It is over after three steps.** -/
theorem verifyEmail_countdown (s : Service) (ctx : RequestContext) (token : String) :
    (s.perform ctx (.verifyEmail token)).run.Meets .countdown (fun _ _ => True) 3 := by
  have htakes : Takes 3 (s.verifyEmail ctx token) := by
    refine Takes.bind (k := 2) (s.takes_accountOfOpaque token .verifyEmail) fun id => ?_
    exact (takes_ask ctx (.accountById id) _).bind fun _ => (takes_require _ _).bind fun _ =>
      takes_ask ctx (.confirmEmail id) _
  exact Program.Meets.mono (htakes.map (fun _ => Answer.done) 3 (Nat.le_refl 3))
    fun _ _ _ => trivial

/-! ## Calls at once -/

variable {w : World} {requests : List Request} {before during turns : List Turn} {i j : Nat}
variable {t : Transition}

/-- A call that confirms the address of an account: its token is accepted
for it at some time. -/
def Verifies (s : Service) (requests : List Request) (u : Int) (i : Nat) : Prop :=
  ∃ ctx token, requests[i]? = some ⟨ctx, .verifyEmail token⟩ ∧
    ∃ now, s.admitted? now (.verifyEmail token) = some u

/-- A call that succeeded has confirmed the address. -/
theorem Verifies.exists_of_done (h : s.Verifies requests u i) {a : Answer}
    (hdone : ((s.start w requests).run turns).programs[i]? = some (.done (.ok a))) :
    a = .done ∧ ∃ t ∈ (s.start w requests).trace turns,
      t.program = i ∧ t.Answers (.confirmEmail u) () := by
  obtain ⟨ctx, token, hrequest, now, haccepted⟩ := h
  rcases ends_of_done hrequest hdone with
    ⟨hop, -⟩ | ⟨h₁, x, h₂, q, r, hsteps, hwrote, -, -, hmay, rfl⟩
  · cases hop
  · have hx : x ∈ stepsOf i ((s.start w requests).trace turns) := by simp [hsteps]
    obtain ⟨t, ht, hi, rfl⟩ := mem_stepsOf.1 hx
    cases hmay with
    | verifyEmail hu =>
      obtain ⟨m, -, hadmitted⟩ := hu
      obtain rfl := admitted?_unique hadmitted haccepted
      exact ⟨rfl, t, ht, hi, hwrote.2⟩

/-- **Whoever has confirmed an address** is such a call, and has
succeeded. -/
theorem verifies_of_confirms (ht : t ∈ (s.start w requests).trace turns)
    (hconfirms : t.Answers (.confirmEmail u) ()) :
    s.Verifies requests u t.program ∧
      ((s.start w requests).run turns).programs[t.program]? = some (.done (.ok .done)) := by
  obtain ⟨⟨ctx, op⟩, hrequest⟩ := exists_request ht
  have hwrote : t.step.Wrote (.confirmEmail u) () := ⟨rfl, hconfirms⟩
  obtain ⟨l₁, l₂, htrace⟩ := List.append_of_mem ht
  obtain ⟨-, hmay⟩ := mayWrite_of_trace htrace hrequest hwrote
  cases hmay with
  | @verifyEmail token _ _ _ hu =>
    obtain ⟨m, -, hadmitted⟩ := hu
    have hverifies : s.Verifies requests u t.program := ⟨ctx, token, hrequest, _, hadmitted⟩
    obtain ⟨a, hdone⟩ := done_of_wrote ht hrequest hwrote nofun
    obtain ⟨rfl, -⟩ := hverifies.exists_of_done hdone
    exact ⟨hverifies, hdone⟩

/-- A call that confirms an address while others go on. It has not begun
before, and the account is there then; nothing disturbs it, its token is
accepted when it looks, and it has all the turns that it needs. -/
structure Attempt (s : Service) (w : World) (requests : List Request) (before during : List Turn)
    (u : Int) (i : Nat) (ctx : RequestContext) (token : String) : Prop where
  request : requests[i]? = some ⟨ctx, .verifyEmail token⟩
  accepts : ∃ now, s.admitted? now (.verifyEmail token) = some u
  unbegun : ∀ t ∈ (s.start w requests).trace before, t.program ≠ i
  account : ∃ a ∈ ((s.start w requests).run before).world.store.accounts, a.id = u
  undisturbed : ∀ t ∈ ((s.start w requests).run before).trace during, t.program = i →
    t.Undisturbed
  accepted : ∀ t ∈ ((s.start w requests).run before).trace during, t.program = i →
    t.effect = .clock → s.admitted? t.time (.verifyEmail token) = some u
  turns : 3 ≤ during.countP fun t => t.program = i

/-- **It succeeds, or is told that the address is confirmed**, and then it
is. -/
theorem Attempt.outcome (hw : w.store = .empty)
    (h : s.Attempt w requests before during u i ctx token) :
    ∃ r, ((s.start w requests).run (before ++ during)).programs[i]? = some (.done r) ∧
      (r = .ok .done ∨ r = .error (.reported .emailAlreadyConfirmed)) ∧
      ((s.start w requests).run (before ++ during)).world.store.Confirmed u := by
  let q := (s.start w requests).run before
  have hprog : q.programs[i]? = some (s.perform ctx (.verifyEmail token)).run :=
    (Pool.getElem?_run_of_notMem before h.unbegun).trans (s.start_getElem? w h.request)
  rw [Pool.run_append]
  obtain ⟨r, hdone⟩ := Pool.done_of_countdown during hprog (s.verifyEmail_countdown ctx token)
    h.turns
  refine ⟨r, hdone, ?_⟩
  -- what its steps tell, as seen from the end of the run
  let final := (q.run during).world
  have hleads : Leads q.world (q.trace during) final := Pool.leads_trace q during
  have htold : ∀ t ∈ q.trace during, t.program = i →
      Step.TellsOwner (fun now => s.admitted? now (.verifyEmail token) = some u) u
        (final.store.Confirmed u) ⟨t.effect, t.reply⟩ := by
    intro t ht hi
    obtain ⟨l₁, l₂, -, hbefore, hafter⟩ := hleads.split_of_mem ht
    obtain ⟨a, ha, hid⟩ := h.account
    obtain ⟨a', ha', hremains⟩ := hbefore.accountsRemain a ha
    exact (h.undisturbed t ht hi).tellsOwner (h.accepted t ht hi)
      ⟨a', ha', hremains.id.trans hid⟩ hafter
  have hmeets : (s.perform ctx (.verifyEmail token)).run.Meets
      (.tellsOwner (fun now => s.admitted? now (.verifyEmail token) = some u) u
        (final.store.Confirmed u))
      (fun _ r => r = .ok .done ∨
        r = .error (.reported .emailAlreadyConfirmed) ∧ final.store.Confirmed u)
      [] := by
    have hprocedure : Meets
        (.tellsOwner (fun now => s.admitted? now (.verifyEmail token) = some u) u
          (final.store.Confirmed u))
        (fun _ a => a = .done)
        (fun _ e => e = .reported .emailAlreadyConfirmed ∧ final.store.Confirmed u)
        (s.perform ctx (.verifyEmail token)) [] :=
      meets_map.2 ((verifyEmail_told h.accepts).mono (fun _ _ _ => rfl) fun _ _ he => he)
    refine Program.Meets.mono hprocedure fun _ r hr => ?_
    match r, hr with
    | .ok _, rfl => exact .inl rfl
    | .error _, ⟨rfl, hconfirmed⟩ => exact .inr ⟨rfl, hconfirmed⟩
  obtain ⟨prog, hprog', hmeets'⟩ := Pool.meets_run_of_relies (l := []) during hprog hmeets htold
  obtain rfl := Option.some.inj (hprog'.symm.trans hdone)
  rcases hmeets' with rfl | ⟨rfl, hconfirmed⟩
  · -- then one of its steps has confirmed the address
    have hverifies : s.Verifies requests u i := ⟨ctx, token, h.request, h.accepts⟩
    rw [← Pool.run_append] at hdone
    obtain ⟨-, t, ht, -, hconfirms⟩ := hverifies.exists_of_done hdone
    have horder : (s.start w requests).world.store.AccountsInOrder :=
      (congrArg Store.AccountsInOrder hw).mpr Store.accountsInOrder_empty
    rw [← Pool.run_append]
    exact ⟨.inl rfl, (Pool.leads_trace _ _).confirmed_of_mem horder ht hconfirms⟩
  · exact ⟨.inr rfl, hconfirmed⟩

/-- **An address is confirmed once.** Whatever operations go on, however
they interleave and whatever they meet: an address that is confirmed stays
so; of the calls that confirm it at most one succeeds; and it is confirmed
exactly if one step of one call has done it, which has succeeded then. Any
other call, that nothing disturbs and whose token is accepted, is told
that the address is confirmed. -/
theorem confirmation_once (s : Service) {w : World} (hw : w.store = .empty)
    (requests : List Request) (before during : List Turn) (u : Int) :
    (((s.start w requests).run before).world.store.Confirmed u →
      ((s.start w requests).run (before ++ during)).world.store.Confirmed u) ∧
    (∀ i j a b, s.Verifies requests u i → s.Verifies requests u j →
      ((s.start w requests).run before).programs[i]? = some (.done (.ok a)) →
      ((s.start w requests).run before).programs[j]? = some (.done (.ok b)) → i = j) ∧
    (((s.start w requests).run before).world.store.Confirmed u ↔
      ∃ t, ConfirmsOnce ((s.start w requests).trace before) u t ∧
        s.Verifies requests u t.program ∧
        ((s.start w requests).run before).programs[t.program]? = some (.done (.ok .done))) ∧
    ∀ i ctx token, s.Attempt w requests before during u i ctx token →
      ∃ r, ((s.start w requests).run (before ++ during)).programs[i]? = some (.done r) ∧
        (r = .ok .done ∨ r = .error (.reported .emailAlreadyConfirmed)) ∧
        ((s.start w requests).run (before ++ during)).world.store.Confirmed u := by
  have hbefore := Pool.leads_trace (s.start w requests) before
  have hduring := Pool.leads_trace ((s.start w requests).run before) during
  have horder : (s.start w requests).world.store.AccountsInOrder :=
    (congrArg Store.AccountsInOrder hw).mpr Store.accountsInOrder_empty
  refine ⟨fun hconfirmed => ?_, fun i j a b hi hj hdone hdone' => ?_, ?_,
    fun i ctx token h => h.outcome hw⟩
  · rw [Pool.run_append]
    exact hconfirmed.mono hduring.accountsRemain
  · obtain ⟨-, t, ht, rfl, hconfirms⟩ := hi.exists_of_done hdone
    obtain ⟨-, t', ht', rfl, hconfirms'⟩ := hj.exists_of_done hdone'
    rw [hbefore.eq_of_confirmEmail horder ht ht' hconfirms hconfirms']
  · rw [hbefore.confirmed_iff hw]
    refine exists_congr fun t => ⟨fun h => ⟨h, ?_⟩, fun h => h.1⟩
    obtain ⟨hconfirms, l₁, l₂, htrace, -⟩ := h
    exact verifies_of_confirms (by simp [htrace]) hconfirms

/-- Two calls with one token, that both find the address unconfirmed: one
of them succeeds. -/
theorem confirmation_race_plain : ∃ requests turns u,
    (∀ i ∈ [1, 2], plain.Verifies requests u i) ∧
    ∃ i ∈ [1, 2],
      ((plain.start {} requests).run turns).programs[i]? = some (.done (.ok .done)) ∧
      ∀ j ∈ [1, 2], j ≠ i →
        ((plain.start {} requests).run turns).programs[j]? =
          some (.done (.error (.reported .emailAlreadyConfirmed))) := by
  obtain ⟨e, hash, hes, -, hop, -, hstore⟩ := exists_account_plain
  have hfits : Fits64 1 := by decide
  obtain ⟨t, ht⟩ := exists_account_token ready_plain (by decide : (0 : Int) < 60) (by decide) hfits
    .verifyEmail
  let token := Wrapped.encodeString t
  have haccepts : plain.admitted? 0 (.verifyEmail token) = some 1 := by
    rw [admitted?, namedByOpaque?, Wrapped.decodeString_encodeString]
    exact ht
  let verify : Request := ⟨unhurried, .verifyEmail token⟩
  let requests := [e].map Errand.request ++ [verify, verify]
  obtain ⟨before, hbefore⟩ := hes.exists_inTurn (List.prefix_append _ [verify, verify])
  let during := (List.range 6).map fun n => (⟨n % 2 + 1, calmDraws 0 toString n .clock⟩ : Turn)
  have hrequests : ∀ i ∈ [1, 2], requests[i]? = some verify := by
    simp [requests]
  have hturns : ∀ i ∈ [1, 2], 3 ≤ during.countP fun t => t.program = i := by decide
  have hcalls : ∀ i ∈ [1, 2], plain.Attempt {} requests before during 1 i unhurried token := by
    intro i hi
    have hdraw (t) (ht : t ∈ ((plain.start {} requests).run before).trace during) :
        t.draw.storeFault = none ∧ t.time = 0 := by
      obtain ⟨turn, hturn, -, hdraw⟩ := Pool.mem_trace ht
      obtain ⟨n, -, rfl⟩ := List.mem_map.1 hturn
      rw [Transition.time, hdraw]
      exact ⟨rfl, rfl⟩
    refine ⟨hrequests i hi, ⟨0, haccepts⟩, ?_, ?_, ?_, ?_, hturns i hi⟩
    · rintro t ht rfl
      have hlt : t.program < 1 := (hbefore.calm t ht).1
      simp at hi
      omega
    · rw [hbefore.world, hstore]
      exact ⟨_, List.mem_singleton_self _, rfl⟩
    · rintro t ht rfl
      have hmem : t ∈ (plain.start {} requests).trace (before ++ during) := by
        rw [Pool.trace_append]
        exact List.mem_append_right _ ht
      exact undisturbed_of_trace hmem (hrequests _ hi) rfl (hdraw t ht).1
    · intro t ht _ _
      rw [(hdraw t ht).2]
      exact haccepts
  have hverifies : ∀ i ∈ [1, 2], plain.Verifies requests 1 i :=
    fun i hi => ⟨unhurried, token, hrequests i hi, 0, haccepts⟩
  obtain ⟨-, -, -, hall⟩ := confirmation_once plain (w := {}) rfl requests before during 1
  obtain ⟨-, honce, hiff, -⟩ :=
    confirmation_once plain (w := {}) rfl requests (before ++ during) [] 1
  obtain ⟨-, -, -, hconfirmed⟩ := hall 1 unhurried token (hcalls 1 (by simp))
  obtain ⟨t, -, ⟨ctx, token', hrequest, -⟩, hdone⟩ := hiff.1 hconfirmed
  -- the first request is another one
  have hmem : t.program ∈ [1, 2] := by
    have hlt : t.program < 3 := (List.getElem?_eq_some_iff.1 hrequest).1
    have hne : t.program ≠ 0 := by
      intro hzero
      rw [hzero] at hrequest
      have heq : e.request = ⟨ctx, .verifyEmail token'⟩ := Option.some.inj hrequest
      cases hop.symm.trans (congrArg Request.operation heq)
    have : t.program = 1 ∨ t.program = 2 := by omega
    simpa using this
  refine ⟨requests, before ++ during, 1, hverifies, t.program, hmem, hdone, fun j hj hne => ?_⟩
  obtain ⟨r, hdone', rfl | rfl, -⟩ := hall j unhurried token (hcalls j hj)
  · exact absurd (honce j t.program _ _ (hverifies j hj) (hverifies _ hmem) hdone' hdone) hne
  · exact hdone'

end Service

end SignOn
