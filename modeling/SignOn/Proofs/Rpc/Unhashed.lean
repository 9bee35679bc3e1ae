import SignOn.Proofs.Rpc.Alike
import SignOn.Proofs.Session.Admission
/-!
# Password hashes show nowhere

Two worlds that differ in password hashes only cannot be told apart by
calls that are not about passwords: such calls are answered the same in
both, they publish the same, and the worlds differ in password hashes only
when they are done. This holds of one call after another, however many.
-/

namespace SignOn

/-- Two worlds that are the same but for the password hashes of their
accounts, and for what was asked of them. -/
structure World.Agrees (w w' : World) : Prop where
  store : w.store.unhashed = w'.store.unhashed
  outbox : w.outbox = w'.outbox

namespace World.Agrees

variable {w w' : World}

/-- The worlds answer a query the same, seen without password hashes, and
go on agreeing. -/
theorem query (h : w.Agrees w') (d : Draw) (ctx : RequestContext) (q : Query) :
    Effect.Alike Account.unhashed (.query ctx q) (w.query d ctx q).1 (w'.query d ctx q).1 ∧
      (w.query d ctx q).2.Agrees (w'.query d ctx q).2 := by
  unfold World.query
  cases d.storeFault with
  | some c => exact ⟨rfl, h⟩
  | none =>
    by_cases hover : ctx.isOver d.moment = true
    · simp only [if_pos hover]
      exact ⟨rfl, h⟩
    · simp only [if_neg hover]
      have hseen : q.seen (w.store.run d.moment.seconds q) =
          q.seen (w'.store.run d.moment.seconds q) := by
        rw [← Store.seen_run w.store, ← Store.seen_run w'.store, h.store]
      cases hrun : w.store.run d.moment.seconds q with
      | ok p =>
        cases hrun' : w'.store.run d.moment.seconds q with
        | ok p' =>
          rw [hrun, hrun'] at hseen
          obtain ⟨hanswer, hstore⟩ := Prod.mk.inj (Except.ok.inj hseen)
          exact ⟨congrArg Except.ok hanswer, hstore, h.outbox⟩
        | error e' =>
          rw [hrun, hrun'] at hseen
          cases hseen
      | error e =>
        cases hrun' : w'.store.run d.moment.seconds q with
        | ok p' =>
          rw [hrun, hrun'] at hseen
          cases hseen
        | error e' =>
          rw [hrun, hrun'] at hseen
          obtain rfl : e = e' := Except.error.inj hseen
          exact ⟨rfl, h⟩

/-- They publish the same. -/
theorem publish (h : w.Agrees w') (d : Draw) (ctx : RequestContext) (subject : String)
    (payload : List UInt8) :
    Effect.Alike Account.unhashed (.publish ctx subject payload) (w.publish d subject payload).1
        (w'.publish d subject payload).1 ∧
      (w.publish d subject payload).2.Agrees (w'.publish d subject payload).2 := by
  unfold World.publish
  cases d.publishFault with
  | some c => exact ⟨rfl, h⟩
  | none =>
    rw [h.outbox]
    cases w'.outbox.publish subject payload with
    | ok outbox => exact ⟨rfl, h.store, rfl⟩
    | error e => exact ⟨rfl, h⟩

/-- **Worlds that agree answer a step alike**, and go on agreeing. -/
theorem answer (h : w.Agrees w') (d : Draw) (e : Effect) :
    e.Alike Account.unhashed (w.answer d e).1 (w'.answer d e).1 ∧
      (w.answer d e).2.Agrees (w'.answer d e).2 := by
  cases e with
  | query ctx q =>
    have hnoted : (w.note (.query q)).Agrees (w'.note (.query q)) := ⟨h.store, h.outbox⟩
    exact hnoted.query d ctx q
  | publish ctx subject payload =>
    have hnoted : (w.note (.publish subject payload)).Agrees (w'.note (.publish subject payload)) :=
      ⟨h.store, h.outbox⟩
    exact hnoted.publish d ctx subject payload
  | _ => exact ⟨rfl, h⟩

end World.Agrees

/-! ## One call after another -/

/-- A call that comes in, and what is drawn while it is carried out. -/
structure Incoming where
  metadata : Metadata
  request : RpcRequest
  draws : Draws

namespace Service

/-- What calls are answered, one after another, and the world after
them. -/
def answerInTurn (s : Service) :
    World → List Incoming → List (Except (Failure Status) RpcResponse) × World
  | w, [] => ([], w)
  | w, c :: calls =>
    let ended := (s.handle c.metadata c.request).run c.draws 0 w
    let (answers, w') := s.answerInTurn ended.world calls
    (ended.result :: answers, w')

/-- A call that is not about passwords is answered the same in worlds that
agree, and they go on agreeing. -/
theorem handle_agrees (s : Service) {w w' : World} (hw : w.Agrees w') {c : Incoming}
    (hc : c.request.readsHash = false) :
    ((s.handle c.metadata c.request).run c.draws 0 w).result =
        ((s.handle c.metadata c.request).run c.draws 0 w').result ∧
      ((s.handle c.metadata c.request).run c.draws 0 w).world.Agrees
        ((s.handle c.metadata c.request).run c.draws 0 w').world := by
  have halike := s.alike_handle c.metadata fun ctx => s.alike_serve ctx hc
  refine halike.run (V := World.Agrees) (D := Eq) ?_ (fun _ _ => rfl) hw
  rintro w w' d _ e hw rfl
  exact hw.answer d e

/-- **Password hashes show nowhere.** In two worlds that are the same but
for the password hashes of their accounts, calls that are not about
passwords, one after another, with any requests and metadata and with the
same draws, faults included, are all answered the same in both worlds, a
response or a status; the same is published; and the worlds are again the
same but for password hashes. -/
theorem answers_independent_of_hashes (s : Service) {w w' : World} (hw : w.Agrees w')
    {calls : List Incoming} (hcalls : ∀ c ∈ calls, c.request.readsHash = false) :
    (s.answerInTurn w calls).1 = (s.answerInTurn w' calls).1 ∧
      (s.answerInTurn w calls).2.outbox = (s.answerInTurn w' calls).2.outbox ∧
      (s.answerInTurn w calls).2.store.unhashed = (s.answerInTurn w' calls).2.store.unhashed := by
  induction calls generalizing w w' with
  | nil => exact ⟨rfl, hw.outbox, hw.store⟩
  | cons c calls ih =>
    obtain ⟨hresult, hafter⟩ := s.handle_agrees hw (hcalls c List.mem_cons_self)
    obtain ⟨hanswers, hrest⟩ := ih hafter fun c' hc' => hcalls c' (List.mem_cons_of_mem _ hc')
    exact ⟨congrArg₂ List.cons hresult hanswers, hrest⟩

/-- A world with one account. -/
def worldOf (hash : String) : World where
  store := { Store.empty with
    accounts := [Store.empty.opened 0 ⟨"owner@example.org", hash, "Owner"⟩]
    lastAccountId := 1 }

/-- Whoever asks for an account is answered the same, whatever the hash. -/
theorem getUser_hides_hash_plain :
    (worldOf "one").store ≠ (worldOf "other").store ∧ (worldOf "one").Agrees (worldOf "other") ∧
    (∃ u, (plain.answerInTurn (worldOf "one")
      [⟨{}, .getUser 1, calmDraws 0 fun _ => ""⟩]).1 = [.ok (.user u)]) ∧
    (plain.answerInTurn (worldOf "one") [⟨{}, .getUser 1, calmDraws 0 fun _ => ""⟩]).1 =
      (plain.answerInTurn (worldOf "other") [⟨{}, .getUser 1, calmDraws 0 fun _ => ""⟩]).1 := by
  have hagrees : (worldOf "one").Agrees (worldOf "other") := ⟨rfl, rfl⟩
  refine ⟨by decide, hagrees, ⟨_, rfl⟩, ?_⟩
  exact (answers_independent_of_hashes plain hagrees (by simp [RpcRequest.readsHash])).1

end Service

end SignOn
