import SignOn.Proofs.Service.Reach
import SignOn.Proofs.Session.Admission
/-!
# Operations keep to one account

An operation is about one account at most, which its token, its address
or the registration determines. The rows of the other accounts are not
touched, not even where a session is looked up by its value alone, and
what is published and answered is for the owner of that account.
-/

namespace SignOn

namespace Service

variable {s : Service} {l : List Transition} {w : World} {now u : Int} {op : Operation}
variable {store : Store} {outbox : Outbox} {σ : Stage}
variable {result : Except (Failure ServiceError) Answer}

/-- Other accounts are not affected, and the owner of this one is
informed and served. -/
theorem Aftermath.sameBut (h : s.Aftermath now op store outbox σ result) (hop : op ≠ .purge)
    (hu : s.subject? now store op = some u) :
    store.SameBut u σ.store ∧
      (∃ new, σ.outbox = { outbox with published := outbox.published ++ new } ∧
        ∀ p ∈ new, s.Informs u p) ∧
      ∀ a, result = .ok a → s.Serves u a := by
  have hnothing : ∃ new, outbox = { outbox with published := outbox.published ++ new } ∧
      ∀ p ∈ new, s.Informs u p := ⟨[], by rw [List.append_nil], by simp⟩
  cases h with
  | kept hbare =>
    refine ⟨.refl u store, hnothing, fun a ha => ?_⟩
    subst ha
    cases a with
    | pair _ | id _ => exact hbare.elim
    | done | account _ | accounts _ | count _ => trivial
  | ended _ hsubject =>
    obtain rfl := Option.some.inj (hu.symm.trans hsubject)
    exact ⟨Store.sameBut_withEnded _ _ _, hnothing, nofun⟩
  | changed _ hsubject hstore hnew hserves =>
    obtain rfl := Option.some.inj (hu.symm.trans hsubject)
    refine ⟨hstore, ⟨_, rfl, hnew⟩, fun a ha => ?_⟩
    rw [← Except.ok.inj ha]
    exact hserves
  | aborted _ hsubject hstore =>
    obtain rfl := Option.some.inj (hu.symm.trans hsubject)
    exact ⟨hstore, hnothing, nofun⟩
  | purged hpurge => exact absurd hpurge hop

/-- An operation that is about no account, or that only reads, changes
nothing and gives nothing out. -/
theorem Aftermath.kept_of_none (h : s.Aftermath now op store outbox σ result) (hop : op ≠ .purge)
    (hnone : s.subject? now store op = none ∨ op.isRead = true) :
    σ.store = store ∧ σ.outbox = outbox ∧ Bare result := by
  have habsurd : ∀ {v}, op.isRead = false → s.subject? now store op = some v → False := by
    intro v hread hsubject
    rcases hnone with hnone | hreads
    · rw [hnone] at hsubject
      cases hsubject
    · rw [hreads] at hread
      cases hread
  cases h with
  | kept hbare => exact ⟨rfl, rfl, hbare⟩
  | ended hreplaces hsubject =>
    exact (habsurd (isRead_of_replacesSession hreplaces) hsubject).elim
  | changed hread hsubject => exact (habsurd hread hsubject).elim
  | aborted hregister hsubject => exact (habsurd (hregister ▸ rfl) hsubject).elim
  | purged hpurge => exact absurd hpurge hop

/-- **An operation keeps to one account.** In any world that is reached,
an operation other than the purge that is carried out by itself, with any
input, and with any faults of its queries and of publishing, leaves the
rows of the accounts that it is not about as they were, and their
sessions; whatever it publishes informs the owner of the account that it
is about, and so does a pair admit the owner that it answers with. An
operation that is about no account, or that only reads, changes nothing,
publishes nothing, and gives out neither tokens nor an account. -/
theorem perform_isolated (s : Service) {l : List Transition} {w : World} (hw : s.Reaches l w)
    (e : Errand) (hop : e.operation ≠ .purge) :
    (∀ u, s.subject? (e.draws 0 .clock).moment.seconds w.store e.operation = some u →
      w.store.SameBut u (s.carryOut w e).world.store ∧
      (∃ new, (s.carryOut w e).world.outbox =
          { w.outbox with published := w.outbox.published ++ new } ∧
        ∀ p ∈ new, s.Informs u p) ∧
      ∀ a, (s.carryOut w e).result = .ok a → s.Serves u a) ∧
    (s.subject? (e.draws 0 .clock).moment.seconds w.store e.operation = none ∨
        e.operation.isRead = true →
      (s.carryOut w e).world.store = w.store ∧ (s.carryOut w e).world.outbox = w.outbox ∧
      Bare (s.carryOut w e).result) := by
  have haftermath := hw.aftermath e
  exact ⟨fun u hu => haftermath.sameBut hop hu, haftermath.kept_of_none hop⟩

/-- A login of the owner of an account keeps to that account, and gets a
pair that admits it. -/
theorem login_isolated_plain : ∃ l w e u p, plain.Reaches l w ∧ e.operation ≠ .purge ∧
    plain.subject? (e.draws 0 .clock).moment.seconds w.store e.operation = some u ∧
    (plain.carryOut w e).result = .ok (.pair p) ∧
    w.store.SameBut u (plain.carryOut w e).world.store ∧ plain.Serves u (.pair p) := by
  obtain ⟨es, e, p, hes, -, hlogin, hp, -, -⟩ :=
    exists_session acceptable_plain ready_plain (by decide) (by decide) (w := {}) rfl
  obtain ⟨l, hreaches, -⟩ := hes.of_concat.exists_reaches rfl
  have hop : e.operation ≠ .purge := by
    rw [hlogin]
    nofun
  obtain ⟨hsome, hnone⟩ := perform_isolated plain hreaches e hop
  cases hu : plain.subject? (e.draws 0 .clock).moment.seconds (plain.after {} es).store
      e.operation with
  | some u =>
    obtain ⟨hsame, -, hserves⟩ := hsome u hu
    exact ⟨l, _, e, u, p, hreaches, hop, hu, hp, hsame, hserves _ hp⟩
  | none =>
    -- a login that is about no account gets no pair
    obtain ⟨-, -, hbare⟩ := hnone (.inl hu)
    rw [hp] at hbare
    exact hbare.elim

end Service

end SignOn
