import SignOn.Proofs.Service.Late
import SignOn.Proofs.Service.Undisturbed
import SignOn.Proofs.Store.Profiles
/-!
# What a change of a profile comes to

A change of a profile is refused for the first of five reasons that applies
(`Service.profileFault?`), or it patches the account that the token is for
and nothing else. The first four reasons are found whatever the conditions
are; whether there is an account can be found out only if nothing disturbs
the question. All this is `Service.updateProfile_outcome`, and
`Service.profile_patches_sparse` puts it beside what patches do to the rows.
-/

namespace SignOn

namespace Service

open Procedure

variable {s : Service} {ctx : RequestContext} {token : String} {patch : ProfilePatch} {w : World}
variable {e : Errand} {draws : Draws} {store : Store} {outbox : Outbox}

/-- What a change of a profile is refused for, in the order in which it is
looked at: the rules for the fields that it has, the token, and that there
is no such account. -/
def profileFault? (s : Service) (now : Int) (store : Store) (token : String)
    (patch : ProfilePatch) : Option ServiceError :=
  if s.acceptsIfPresent .displayName patch.displayName = false then some .invalidDisplayName
  else if s.acceptsIfPresent .phone patch.phone = false then some .invalidPhone
  else if s.acceptsIfPresent .telegram patch.telegram = false then some .invalidTelegram
  else
    match s.issuer.parseAccess now token with
    | none => some .invalidToken
    | some id => if ∃ a ∈ store.accounts, a.id = id then none else some .accountNotFound

/-- How a change of a profile is refused: nothing changes, and it fails for
what it is to be refused for, unless one of its steps was disturbed after
it had passed the checks that need no account. -/
structure ProfileRefused (s : Service) (now : Int) (token : String) (patch : ProfilePatch)
    (store : Store) (outbox : Outbox) (err : Failure ServiceError) (σ : Stage) : Prop where
  kept : σ.store = store ∧ σ.outbox = outbox
  cause : (s.profileFault? now store token patch).map .reported = some err ∨
    (∃ t ∈ σ.taken, ¬ t.Undisturbed) ∧
      ∀ fault, s.profileFault? now store token patch = some fault → fault = .accountNotFound

/-- How it is granted: the account that the token is for is patched at the
time of a step, and nothing else changes. -/
structure ProfileChanged (s : Service) (now : Int) (token : String) (patch : ProfilePatch)
    (store : Store) (outbox : Outbox) (σ : Stage) : Prop where
  faultless : s.profileFault? now store token patch = none
  kept : σ.outbox = outbox
  changed : ∃ id, s.issuer.parseAccess now token = some id ∧
    ∃ t ∈ σ.taken, t.Answers (.updateProfile id patch) () ∧
      store.updateProfile t.time id patch = .ok σ.store

/-- **A change of a profile** is granted or refused so. -/
theorem updateProfile_meets : Meets (.alone draws)
    (fun σ _ => s.ProfileChanged (draws 0 .clock).moment.seconds token patch store outbox σ)
    (fun σ err => s.ProfileRefused (draws 0 .clock).moment.seconds token patch store outbox err σ)
    (s.updateProfile ctx token patch) ⟨[], store, outbox⟩ := by
  let now := (draws 0 .clock).moment.seconds
  have hrefused {σ : Stage} {err : ServiceError} (hstore : σ.store = store)
      (houtbox : σ.outbox = outbox) (hfault : s.profileFault? now store token patch = some err) :
      s.ProfileRefused now token patch store outbox (.reported err) σ :=
    ⟨⟨hstore, houtbox⟩, .inl (congrArg (Option.map Failure.reported) hfault)⟩
  simp only [updateProfile, requireValidIfPresent_eq]
  refine meets_bind.2 (meets_require.2 ⟨fun hname => ?_, fun hname => ?_⟩)
  swap
  · exact hrefused rfl rfl (by simp [profileFault?, hname, Field.failure])
  refine meets_bind.2 (meets_require.2 ⟨fun hphone => ?_, fun hphone => ?_⟩)
  swap
  · exact hrefused rfl rfl (by simp [profileFault?, hname, hphone, Field.failure])
  refine meets_bind.2 (meets_require.2 ⟨fun htelegram => ?_, fun htelegram => ?_⟩)
  swap
  · exact hrefused rfl rfl (by simp [profileFault?, hname, hphone, htelegram, Field.failure])
  have haccess : s.profileFault? now store token patch =
      match s.issuer.parseAccess now token with
      | none => some .invalidToken
      | some id => if ∃ a ∈ store.accounts, a.id = id then none else some .accountNotFound := by
    simp [profileFault?, hname, hphone, htelegram]
  refine meets_bind.2 (meets_bind.2 (meets_alone_now fun l₁ _ => meets_expect.2
    ⟨fun id (hid : s.issuer.parseAccess now token = some id) => ?_, fun hid => ?_⟩))
  swap
  · have hnone : s.issuer.parseAccess now token = none := hid
    exact hrefused rfl rfl (haccess.trans (by rw [hnone]))
  simp only [hid] at haccess
  -- a step that was disturbed leaves open whether there is an account
  have hdisturbed {l : List Transition} {t : Transition} {err : Failure ServiceError} (ht : t ∈ l)
      (hnot : ¬ t.Undisturbed) :
      s.ProfileRefused now token patch store outbox err ⟨l, store, outbox⟩ := by
    refine ⟨⟨rfl, rfl⟩, .inr ⟨⟨t, ht, hnot⟩, fun fault hfault => ?_⟩⟩
    rw [haccess] at hfault
    split at hfault
    · cases hfault
    · exact (Option.some.inj hfault).symm
  refine meets_bind.2 (meets_alone_ask_or_disturbed (fun l₂ t a store' _ _ hrun => ?_)
    fun l₂ t err _ ht hrun => ?_)
  swap
  · by_cases hund : t.Undisturbed
    · obtain ⟨rfl, hnone⟩ := Store.accountById_eq_error_iff.1
        (Store.unchanged_eq_error_iff.1 (hrun hund))
      exact hrefused rfl rfl (haccess.trans (if_neg (by simpa using hnone)))
    · exact hdisturbed ht hund
  obtain ⟨hfound, rfl⟩ := Store.unchanged_eq_ok_iff.1 hrun
  have hfault : s.profileFault? now store' token patch = none := by
    rw [haccess, if_pos ⟨a, Store.mem_of_accountById hfound⟩]
  refine meets_alone_ask_or_disturbed (fun l₃ t _ store'' ht hanswers hrun => ?_)
    fun l₃ t err _ ht hrun => ?_
  · exact ⟨hfault, rfl, id, hid, t, ht, hanswers, Store.changed_eq_ok_iff.1 hrun⟩
  · refine hdisturbed ht fun hund => ?_
    have hok : store'.updateProfile t.time id patch = .ok _ :=
      Store.updateProfile_eq_ok_iff.2 ⟨⟨a, Store.mem_of_accountById hfound⟩, rfl⟩
    cases hok.symm.trans (Store.changed_eq_error_iff.1 (hrun hund))

/-! ## The theorem -/

/-- What a change of a profile comes to that is carried out by itself. -/
structure ProfileOutcome (s : Service) (token : String) (patch : ProfilePatch) (w : World)
    (e : Errand) : Prop where
  /-- It fails for what it is to be refused for. That there is no account
  is found out if nothing disturbs the question. -/
  refused : ∀ err,
    s.profileFault? (e.draws 0 .clock).moment.seconds w.store token patch = some err →
    (err = .accountNotFound → ∀ t ∈ s.stepsTaken w e, t.Undisturbed) →
    (s.carryOut w e).result = .error (.reported err)
  /-- If it fails, for whatever reason, nothing changes. -/
  kept : ∀ err, (s.carryOut w e).result = .error err →
    (s.carryOut w e).world.store = w.store ∧ (s.carryOut w e).world.outbox = w.outbox
  /-- It succeeds if there is nothing to refuse it for and nothing disturbs
  it. -/
  granted : s.profileFault? (e.draws 0 .clock).moment.seconds w.store token patch = none →
    (∀ t ∈ s.stepsTaken w e, t.Undisturbed) → (s.carryOut w e).result = .ok .done
  /-- If it succeeds, there was nothing to refuse it for, and the account
  that the token is for is all that has changed. -/
  changed : ∀ a, (s.carryOut w e).result = .ok a →
    s.ProfileChanged (e.draws 0 .clock).moment.seconds token patch w.store w.outbox
      ⟨s.stepsTaken w e, (s.carryOut w e).world.store, (s.carryOut w e).world.outbox⟩

/-- **What a change of a profile comes to.** -/
theorem updateProfile_outcome (hop : e.operation = .updateProfile token patch) :
    s.ProfileOutcome token patch w e := by
  let now := (e.draws 0 .clock).moment.seconds
  have hmeets : Meets (.alone e.draws)
      (fun σ a => a = .done ∧ s.ProfileChanged now token patch w.store w.outbox σ)
      (fun σ err => s.ProfileRefused now token patch w.store w.outbox err σ)
      (s.perform e.ctx e.operation) ⟨[], w.store, w.outbox⟩ := by
    rw [hop]
    exact meets_map.2 (updateProfile_meets.mono (fun _ _ h => ⟨rfl, h⟩) fun _ _ h => h)
  obtain ⟨hok, herror⟩ := carryOut_of_meets_alone hmeets
  refine ⟨fun err hfault hund => ?_, fun err herr => (herror err herr).kept, fun hnone hund => ?_,
    fun a ha => (hok a ha).2⟩
  · cases hresult : (s.carryOut w e).result with
    | ok a => cases (hok a hresult).2.faultless.symm.trans hfault
    | error err' =>
      rcases (herror err' hresult).cause with hfault' | ⟨⟨t, ht, hnot⟩, hlast⟩
      · rw [hfault] at hfault'
        rw [← Option.some.inj hfault']
      · exact absurd (hund (hlast err hfault) t ht) hnot
  · cases hresult : (s.carryOut w e).result with
    | ok a => rw [(hok a hresult).1]
    | error err =>
      rcases (herror err hresult).cause with hfault | ⟨⟨t, ht, hnot⟩, -⟩
      · rw [hnone] at hfault
        cases hfault
      · exact absurd (hund t ht) hnot

/-- **A patch is sparse, and touches nothing else.**

Patches of one account one after another come to a single change at the
time of the last, with the patch that has for each field the last value
that one of them has for it; and the row of the account has what that patch
has, the other fields and all other rows being as they were. A patch
without fields only dates the account. Where there is no account the store
says so and the world is as it was.

A change that is asked for with a token is made exactly if the fields that
the patch has are acceptable, the token is accepted and the account is
there, and otherwise refused for the first of these that fails, with
nothing changed; a fault of the store or a deadline that comes in between
changes nothing either. -/
theorem profile_patches_sparse :
    (∀ (store : Store) (id : Int) (updates : List (Int × ProfilePatch)) (now : Int)
      (patch : ProfilePatch), (∃ a ∈ store.accounts, a.id = id) →
      let combined := ProfilePatch.combined ((updates ++ [(now, patch)]).map Prod.snd)
      ∃ after, store.updateInTurn id (updates ++ [(now, patch)]) = .ok after ∧
        store.updateProfile now id combined = .ok after ∧
        store.ProfilePatched id now combined after) ∧
    (∀ (store after : Store) (id now : Int) (patch : ProfilePatch), patch.isEmpty = true →
      store.updateProfile now id patch = .ok after →
      after = store.mapAccount id fun a => { a with updatedAt := now }) ∧
    (∀ (w : World) (d : Draw) (ctx : RequestContext) (id : Int) (patch : ProfilePatch),
      (∀ a ∈ w.store.accounts, a.id ≠ id) → d.storeFault = none → ctx.isOver d.moment = false →
      w.query d ctx (.updateProfile id patch) = (.error (.noAccount id), w)) ∧
    ∀ (s : Service) (w : World) (e : Errand) (token : String) (patch : ProfilePatch),
      e.operation = .updateProfile token patch → s.ProfileOutcome token patch w e := by
  refine ⟨fun store id updates now patch ha => ?_, fun store after id now patch hempty h => ?_,
    fun w d ctx id patch hnone hfault hover => ?_,
    fun s w e token patch hop => updateProfile_outcome hop⟩
  · intro combined
    have hok : store.updateProfile now id combined = .ok _ :=
      Store.updateProfile_eq_ok_iff.2 ⟨ha, rfl⟩
    exact ⟨_, (store.updateInTurn_concat id updates now patch).trans hok, hok,
      Store.profilePatched_of_updateProfile hok⟩
  · obtain ⟨-, rfl⟩ := Store.updateProfile_eq_ok_iff.1 h
    congr 1
    funext a
    exact (patch.patched_applyAt now a).eq_of_isEmpty hempty
  · refine World.query_of_run_eq_error hfault hover ?_
    exact Store.changed_eq_error_iff.2 (Store.updateProfile_eq_error hnone _ _)

/-- The owner of the first account changes the name: nothing refuses it. -/
theorem profile_patches_plain : ∃ w e token, plain.Sequential {} [w] ∧
    e.operation = .updateProfile token { displayName := some "Second" } ∧
    (plain.carryOut (plain.after {} [w]) e).result = .ok .done := by
  obtain ⟨w, hash, hes, -, -, -, hstore⟩ := exists_account_plain
  obtain ⟨token, htoken⟩ := exists_account_token ready_plain (by decide : (0 : Int) < 60)
    (by decide) (by decide : Fits64 1) .access
  let patch : ProfilePatch := { displayName := some "Second" }
  let e : Errand := ⟨unhurried, .updateProfile token patch, 0, calmDraws 0 toString⟩
  have hcalm : ∀ t ∈ plain.stepsTaken (plain.after {} [w]) e, t.Calm 0 :=
    Program.calm_trace (plain.perform_isFor unhurried (.updateProfile token patch)) rfl 0 _
  have haccess : plain.issuer.parseAccess 0 token = some 1 := htoken
  have haccount : ∃ a ∈ (plain.after {} [w]).store.accounts, a.id = 1 := by
    rw [hstore]
    exact ⟨_, List.mem_singleton_self _, rfl⟩
  have hnone : plain.profileFault? 0 (plain.after {} [w]).store token patch = none := by
    have hfields : plain.acceptsIfPresent .displayName patch.displayName = true ∧
      plain.acceptsIfPresent .phone patch.phone = true ∧
      plain.acceptsIfPresent .telegram patch.telegram = true := ⟨rfl, rfl, rfl⟩
    simp only [profileFault?, hfields, haccess, Bool.true_eq_false, if_false]
    exact if_pos haccount
  have houtcome := profile_patches_sparse.2.2.2 plain (plain.after {} [w]) e token patch rfl
  exact ⟨w, e, token, hes, rfl, houtcome.granted hnone fun t ht => (hcalm t ht).undisturbed⟩

end Service

end SignOn
