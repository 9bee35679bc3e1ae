import SignOn.Proofs.Service.Alone
import SignOn.Proofs.Service.Quiet
import SignOn.Proofs.Store.Unhashed
/-!
# Two programs that go alike

Two programs go alike if they ask for the same steps as long as they get
replies that are alike, and end with related results. What counts as
alike is what the service may let show: answers are compared with their
accounts seen in some way, storage errors by their kind, and of what was
published only whether it got out. `Program.Alike.run` carries this over
to the runs of both programs, in worlds that answer every step alike, and
`Procedure.Alike` goes along the pieces that procedures are made of.
-/

namespace SignOn

/-! ## Failures -/

/-- What matters of a storage error. -/
inductive StoreError.Kind
  | internal
  | notFound
  | conflict
  | deadlineExceeded
deriving Repr, DecidableEq

/-- The kind of a storage error. -/
def StoreError.kind : StoreError → StoreError.Kind
  | .io _ | .connection _ | .migration _ | .query _ => .internal
  | .notFound _ => .notFound
  | .conflict _ => .conflict
  | .deadlineExceeded => .deadlineExceeded

/-- Failures that differ at most in the storage error or the notification
error that caused them. -/
inductive ServiceError.Alike : ServiceError → ServiceError → Prop
  | same (e : ServiceError) : Alike e e
  | storage (c c' : StoreError) : Alike (.storage c) (.storage c')
  | notification (c c' : NotificationError) : Alike (.notification c) (.notification c')

/-- Both are aborted, or they report errors that are alike. -/
inductive Failure.Alike : Failure ServiceError → Failure ServiceError → Prop
  | reported {e e' : ServiceError} (h : e.Alike e') : Alike (.reported e) (.reported e')
  | aborted : Alike .aborted .aborted

theorem Failure.Alike.refl (e : Failure ServiceError) : e.Alike e := by
  cases e with
  | reported e => exact .reported (.same e)
  | aborted => exact .aborted

/-- A translation of storage errors that goes by their kinds. -/
def StoreError.ByKind (failure : StoreError → ServiceError) : Prop :=
  ∀ e e', e.kind = e'.kind → (failure e).Alike (failure e')

namespace StoreError

/-- Errors of one kind are both internal, or they differ in their texts at
most. -/
theorem cases_of_kind_eq {e e' : StoreError} (h : e.kind = e'.kind) :
    (e.kind = .internal ∧ e'.kind = .internal) ∨
      (∃ what what', e = .notFound what ∧ e' = .notFound what') ∨
      (∃ what what', e = .conflict what ∧ e' = .conflict what') ∨
      e = .deadlineExceeded ∧ e' = .deadlineExceeded := by
  cases hkind : e.kind with
  | internal => exact .inl ⟨rfl, h.symm.trans hkind⟩
  | notFound =>
    cases e <;> cases hkind
    cases e' <;> cases h
    exact .inr (.inl ⟨_, _, rfl, rfl⟩)
  | conflict =>
    cases e <;> cases hkind
    cases e' <;> cases h
    exact .inr (.inr (.inl ⟨_, _, rfl, rfl⟩))
  | deadlineExceeded =>
    cases e <;> cases hkind
    cases e' <;> cases h
    exact .inr (.inr (.inr ⟨rfl, rfl⟩))

theorem byKind_const (e : ServiceError) : ByKind fun _ => e :=
  fun _ _ _ => .same e

/-- A translation that passes internal errors on may do as it likes with
rows that are missing and rows that are there already, if it looks no
further. -/
theorem byKind_of_internal {failure : StoreError → ServiceError}
    (hinternal : ∀ detail, failure (.io detail) = .storage (.io detail) ∧
      failure (.connection detail) = .storage (.connection detail) ∧
      failure (.migration detail) = .storage (.migration detail) ∧
      failure (.query detail) = .storage (.query detail))
    (hnotFound : ∀ what what', (failure (.notFound what)).Alike (failure (.notFound what')))
    (hconflict : ∀ what what', (failure (.conflict what)).Alike (failure (.conflict what'))) :
    ByKind failure := by
  have hstorage {e : StoreError} (he : e.kind = .internal) : failure e = .storage e := by
    cases e with
    | io detail => exact (hinternal detail).1
    | connection detail => exact (hinternal detail).2.1
    | migration detail => exact (hinternal detail).2.2.1
    | query detail => exact (hinternal detail).2.2.2
    | _ => cases he
  intro e e' h
  rcases cases_of_kind_eq h with
    ⟨he, he'⟩ | ⟨what, what', rfl, rfl⟩ | ⟨what, what', rfl, rfl⟩ | ⟨rfl, rfl⟩
  · rw [hstorage he, hstorage he']
    exact .storage e e'
  · exact hnotFound what what'
  · exact hconflict what what'
  · exact .same _

theorem byKind_ofStore : ByKind .ofStore :=
  byKind_of_internal (fun _ => ⟨rfl, rfl, rfl, rfl⟩) (fun _ _ => .storage _ _)
    fun _ _ => .storage _ _

/-- An account is not found, whatever the cause. -/
theorem byKind_ofLookup : ByKind .ofLookup := by
  intro e e' h
  rcases cases_of_kind_eq h with
    ⟨he, he'⟩ | ⟨what, what', rfl, rfl⟩ | ⟨what, what', rfl, rfl⟩ | ⟨rfl, rfl⟩
  · have hlookup {e : StoreError} (he : e.kind = .internal) :
        ServiceError.ofLookup e = .accountNotFound := by
      cases e <;> first | rfl | cases he
    rw [hlookup he, hlookup he']
    exact .same _
  · exact .same _
  · exact .same _
  · exact .same _

end StoreError

/-! ## Replies -/

/-- Replies that are alike: answers that look the same, storage errors of
one kind, any two notification errors. -/
def Effect.Alike (view : Account → Account) : (e : Effect) → e.Reply → e.Reply → Prop
  | .query _ q, r, r' =>
    (r.map (q.see view)).mapError StoreError.kind = (r'.map (q.see view)).mapError StoreError.kind
  | .publish _ _ _, r, r' => r.isOk = r'.isOk
  | _, r, r' => r = r'

namespace Effect.Alike

variable {view view' : Account → Account} {ctx : RequestContext} {q : Query}

theorem eq_of_inward {e : Effect} (he : e.Inward) {r r' : e.Reply} (h : e.Alike view r r') :
    r = r' := by
  cases e with
  | query ctx q => exact he.elim
  | publish ctx subject payload => exact he.elim
  | _ => exact h

/-- Of two replies to a query that are alike, both are answers or both are
errors. -/
theorem query_cases {r r' : Except StoreError q.Answer} (h : Effect.Alike view (.query ctx q) r r') :
    (∃ x x', r = .ok x ∧ r' = .ok x' ∧ q.see view x = q.see view x') ∨
      ∃ e e', r = .error e ∧ r' = .error e' ∧ e.kind = e'.kind := by
  cases r with
  | ok x =>
    cases r' with
    | ok x' => exact .inl ⟨x, x', rfl, rfl, Except.ok.inj h⟩
    | error e' => cases h
  | error e =>
    cases r' with
    | ok x' => cases h
    | error e' => exact .inr ⟨e, e', rfl, rfl, Except.error.inj h⟩

/-- What looks the same at a closer look looks the same. -/
theorem coarser (hview : ∀ a b, view' a = view' b → view a = view b) {e : Effect} {r r' : e.Reply}
    (h : e.Alike view' r r') : e.Alike view r r' := by
  cases e with
  | query ctx q =>
    rcases h.query_cases with ⟨x, x', rfl, rfl, hx⟩ | ⟨e, e', rfl, rfl, hkind⟩
    · refine congrArg Except.ok ?_
      cases q with
      | accountById id => exact hview x x' hx
      | accountByEmail email => exact hview x x' hx
      | listAccounts page =>
        have hall : List.Forall₂ (fun a b => view' a = view' b) x x' := by
          rw [← List.forall₂_map_right_iff, ← List.forall₂_map_left_iff (f := view')]
          exact List.forall₂_eq_eq_eq ▸ hx
        have hall : List.Forall₂ Eq (x.map view) (x'.map view) :=
          List.forall₂_map_left_iff.2 (List.forall₂_map_right_iff.2 (hall.imp hview))
        exact List.forall₂_eq_eq_eq ▸ hall
      | _ => exact hx
    · exact congrArg Except.error hkind
  | _ => exact h

end Effect.Alike

/-! ## Programs -/

/-- Two programs that ask for the same steps, as long as they get replies
that are alike, and whose results are related. -/
inductive Program.Alike (view : Account → Account) {α β : Type} (R : α → β → Prop) :
    Program α → Program β → Prop
  | done {a : α} {b : β} (h : R a b) : Alike view R (.done a) (.done b)
  | await {e : Effect} {next : e.Reply → Program α} {next' : e.Reply → Program β}
      (h : ∀ r r', e.Alike view r r' → Alike view R (next r) (next' r')) :
      Alike view R (.await e next) (.await e next')

namespace Program.Alike

variable {view view' : Account → Account} {α α' β β' : Type}
variable {R : α → β → Prop} {R' : α' → β' → Prop} {p : Program α} {p' : Program β}

/-- **Two programs in a row** go alike. -/
theorem bind (h : Alike view R p p') {next : α → Program α'} {next' : β → Program β'}
    (hnext : ∀ a b, R a b → Alike view R' (next a) (next' b)) :
    Alike view R' (p.bind next) (p'.bind next') := by
  induction h with
  | done hR => exact hnext _ _ hR
  | await _ ih => exact .await ih

/-- They go alike at a closer look at what they get. -/
theorem closer (h : Alike view R p p') (hview : ∀ a b, view' a = view' b → view a = view b) :
    Alike view' R p p' := by
  induction h with
  | done hR => exact .done hR
  | await _ ih => exact .await fun r r' hr => ih r r' (hr.coarser hview)

/-- **Programs that go alike end alike**, in worlds that answer every step
alike and stay related. -/
theorem run {V : World → World → Prop} {D : Draw → Draw → Prop}
    (hanswer : ∀ w w' d d' e, V w w' → D d d' →
      e.Alike view (w.answer d e).1 (w'.answer d' e).1 ∧ V (w.answer d e).2 (w'.answer d' e).2)
    {draws draws' : Draws} (hdraws : ∀ n e, D (draws n e) (draws' n e)) (h : Alike view R p p')
    {n : Nat} {w w' : World} (hw : V w w') :
    R (p.run draws n w).result (p'.run draws' n w').result ∧
      V (p.run draws n w).world (p'.run draws' n w').world := by
  induction h generalizing n w w' with
  | done hR => exact ⟨hR, hw⟩
  | @await e next next' _ ih =>
    obtain ⟨hreply, hafter⟩ := hanswer w w' (draws n e) (draws' n e) e hw (hdraws n e)
    exact ih _ _ hreply hafter

end Program.Alike

/-! ## Procedures -/

/-- Results that are related, or failures that are alike. -/
inductive Outcome.Alike {α β : Type} (R : α → β → Prop) :
    Except (Failure ServiceError) α → Except (Failure ServiceError) β → Prop
  | ok {a : α} {b : β} (h : R a b) : Alike R (.ok a) (.ok b)
  | error {e e' : Failure ServiceError} (h : e.Alike e') : Alike R (.error e) (.error e')

namespace Procedure

variable {view : Account → Account} {α α' β β' : Type}
variable {R : α → β → Prop} {R' : α' → β' → Prop} {x : Procedure α} {y : Procedure β}

/-- Two procedures that go alike, with related results or failures that
are alike. -/
def Alike (view : Account → Account) (R : α → β → Prop) (x : Procedure α) (y : Procedure β) :
    Prop :=
  Program.Alike view (Outcome.Alike R) x.run y.run

theorem alike_pure {a : α} {b : β} (h : R a b) : Alike view R (pure a) (pure b) :=
  .done (.ok h)

theorem alike_throw {e e' : Failure ServiceError} (h : e.Alike e') :
    Alike view R (throw e : Procedure α) (throw e' : Procedure β) :=
  .done (.error h)

theorem alike_report {e e' : ServiceError} (h : e.Alike e') :
    Alike view R (report e : Procedure α) (report e' : Procedure β) :=
  alike_throw (.reported h)

/-- **Two procedures in a row** go alike. -/
theorem Alike.bind (h : Alike view R x y) {next : α → Procedure α'} {next' : β → Procedure β'}
    (hnext : ∀ a b, R a b → Alike view R' (next a) (next' b)) :
    Alike view R' (x >>= next) (y >>= next') := by
  refine Program.Alike.bind h fun r r' hr => ?_
  cases hr with
  | ok hR => exact hnext _ _ hR
  | error he => exact alike_throw he

/-- Of two that have the same result, the second goes on with it. -/
theorem Alike.bind_eq {y : Procedure α} (h : Alike view Eq x y) {next : α → Procedure α'}
    {next' : α → Procedure β'} (hnext : ∀ a, Alike view R' (next a) (next' a)) :
    Alike view R' (x >>= next) (y >>= next') := by
  refine h.bind ?_
  rintro a _ rfl
  exact hnext a

theorem Alike.mono {S : α → β → Prop} (h : Alike view R x y) (hS : ∀ a b, R a b → S a b) :
    Alike view S x y := by
  have hbind : Alike view S (x >>= pure) (y >>= pure) :=
    h.bind fun a b hR => alike_pure (hS a b hR)
  rwa [bind_pure, bind_pure] at hbind

theorem Alike.recover (h : Alike view R x y)
    {handle : ServiceError → Procedure α} {handle' : ServiceError → Procedure β}
    (hhandle : ∀ e e', e.Alike e' → Alike view R (handle e) (handle' e')) :
    Alike view R (recover x handle) (recover y handle') := by
  refine Program.Alike.bind h fun r r' hr => ?_
  cases hr with
  | ok hR => exact alike_pure hR
  | error he =>
    cases he with
    | reported he => exact hhandle _ _ he
    | aborted => exact alike_throw .aborted

theorem alike_step (e : Effect) : Alike view (e.Alike view) (step e) (step e) :=
  .await fun _ _ hr => .done (.ok hr)

/-- What asks nothing of the store or the outbox goes alike with
itself. -/
theorem Uses.alike {x : Procedure α} (hx : x.Uses Effect.Inward) : Alike view Eq x x := by
  -- by induction on the program, whatever it meets
  have hprogram {Q : Unit → Except (Failure ServiceError) α → Prop}
      (p : Program (Except (Failure ServiceError) α))
      (hp : p.Meets (.only Effect.Inward) Q ()) : Program.Alike view (Outcome.Alike Eq) p p := by
    induction p with
    | done r =>
      cases r with
      | ok a => exact .done (.ok rfl)
      | error e => exact .done (.error (.refl e))
    | await e next ih =>
      obtain ⟨he, hnext⟩ := hp
      refine .await fun r r' hr => ?_
      obtain rfl := hr.eq_of_inward he
      exact ih r (hnext r () trivial)
  exact hprogram x.run hx

theorem alike_require (condition : Bool) (failure : ServiceError) :
    Alike view Eq (require condition failure) (require condition failure) :=
  (uses_require condition failure).alike

theorem alike_expect (failure : ServiceError) (x : Option α) :
    Alike view Eq (expect failure x) (expect failure x) :=
  (uses_expect failure x).alike

/-- Queries go alike where errors are translated by their kind. -/
theorem alike_ask (ctx : RequestContext) (q : Query) {failure : StoreError → ServiceError}
    (hfailure : StoreError.ByKind failure) :
    Alike view (fun x x' => q.see view x = q.see view x') (ask ctx q failure)
      (ask ctx q failure) := by
  refine (alike_step (.query ctx q)).bind fun r r' hr => ?_
  rcases hr.query_cases with ⟨x, x', rfl, rfl, hx⟩ | ⟨e, e', rfl, rfl, hkind⟩
  · exact alike_pure hx
  · exact alike_report (hfailure e e' hkind)

/-- They get the same answer where it is seen as it is. -/
theorem alike_ask_eq (ctx : RequestContext) (q : Query) {failure : StoreError → ServiceError}
    (hsee : ∀ x, q.see view x = x) (hfailure : StoreError.ByKind failure) :
    Alike view Eq (ask ctx q failure) (ask ctx q failure) := by
  refine (alike_ask ctx q hfailure).mono fun x x' hx => ?_
  rwa [hsee, hsee] at hx

end Procedure

end SignOn
