import SignOn.Proofs.Rpc.Listing
/-!
# Reading accounts

An account may be asked for by its number, by its address, by an access
token or in the listing of all. Whoever asks is shown the same, however the
account is named, as it stands in the store, and nothing is changed by it.
Callers have unsigned numbers and tokens signed ones; a number out of range
on either side names no account: `Service.reads_agree`.
-/

namespace SignOn

variable {w : World} {l : List Transition} {id : Int} {n : UInt64}

/-! ## What is shown of an account -/

/-- What a call is answered that asks for one account. -/
def told : Option Account → Except Status RpcResponse
  | some a => .ok (.user (.ofAccount a))
  | none => .error ⟨.notFound, "user not found"⟩

/-- What a caller is shown who asks for an account by its number. -/
def Store.shown (s : Store) (n : UInt64) : Except Status RpcResponse :=
  told ((idFromWire? n).bind s.account?)

theorem idFromWire?_of_lt (h : n.toNat < 2 ^ 63) : idFromWire? n = some (n.toNat : Int) :=
  if_pos h

theorem idFromWire?_of_le (h : 2 ^ 63 ≤ n.toNat) : idFromWire? n = none :=
  if_neg (Nat.not_lt.2 h)

/-- Numbers of accounts go to callers and back. -/
theorem idFromWire?_eq_some (hid : 0 < id) (hlt : id < 0x8000000000000000)
    (hn : idToWire id = n.toNat) : idFromWire? n = some id := by
  unfold idToWire at hn
  rw [idFromWire?_of_lt (by omega)]
  exact congrArg some (by omega)

namespace Service

open Procedure

variable {s : Service} {a : Account} {email : String}

/-- **An account is shown to whoever has its number.** -/
theorem Reaches.shown_of_mem (h : s.Reaches l w) (hfew : w.store.accounts.length < 2 ^ 63)
    (ha : a ∈ w.store.accounts) (hn : idToWire a.id = n.toNat) :
    w.store.shown n = .ok (.user (.ofAccount a)) := by
  obtain ⟨hpos, hlt⟩ := h.id_lt hfew ha
  rw [Store.shown, idFromWire?_eq_some hpos hlt hn, Option.bind_some,
    h.accounts.account?_eq_some_iff.2 ⟨ha, rfl⟩]
  rfl

/-- **No account, nothing to show.** -/
theorem shown_of_forall_ne (h : ∀ a ∈ w.store.accounts, idToWire a.id ≠ n.toNat) :
    w.store.shown n = .error ⟨.notFound, "user not found"⟩ := by
  rcases Nat.lt_or_ge n.toNat (2 ^ 63) with hlt | hle
  · have hnone : w.store.account? (n.toNat : Int) = none := by
      rw [← Option.isNone_iff_eq_none, Store.account?_isNone_iff]
      intro a ha hid
      exact h a ha (by rw [hid]; rfl)
    rw [Store.shown, idFromWire?_of_lt hlt, Option.bind_some, hnone]
    rfl
  · rw [Store.shown, idFromWire?_of_le hle]
    rfl

/-! ## Calls that look -/

/-- Comes to a result and leaves the store, if no step is disturbed. -/
def ComesTo {α : Type} (draws : Draws) (r : Except ServiceError α) (x : Procedure α) (σ : Stage) :
    Prop :=
  Meets (.alone draws)
    (fun σ' a => (∀ t ∈ σ'.taken, t.Undisturbed) → r = .ok a ∧ σ'.store = σ.store)
    (fun σ' e => (∀ t ∈ σ'.taken, t.Undisturbed) →
      r.mapError .reported = .error e ∧ σ'.store = σ.store) x σ

/-- A question that only looks, and what is told of the answer. -/
theorem comesTo_look {draws : Draws} {store : Store} {outbox : Outbox} {ctx : RequestContext}
    {q : Query} {failure : StoreError → ServiceError} {f : q.Answer → RpcResponse}
    (look : Except StoreError q.Answer) (hlook : ∀ now, store.run now q = store.unchanged look) :
    ComesTo draws ((look.mapError failure).map f) (do let x ← ask ctx q failure; return f x)
      ⟨l, store, outbox⟩ := by
  refine meets_bind.2 (meets_alone_ask_or_disturbed (fun l' t x store' _ _ hrun => ?_)
    fun l' t e _ ht hfails hsteps => ?_)
  · rw [hlook] at hrun
    obtain ⟨rfl, rfl⟩ := Store.unchanged_eq_ok_iff.1 hrun
    exact fun _ => ⟨rfl, rfl⟩
  · have hrun := hfails (hsteps t ht)
    rw [hlook] at hrun
    obtain rfl := Store.unchanged_eq_error_iff.1 hrun
    exact ⟨rfl, rfl⟩

/-- A request is taken in in two steps. -/
theorem receive_alone (m : Metadata) {draws : Draws} {store : Store} {outbox : Outbox}
    {Q : Stage → RequestContext → Prop}
    (h : ∀ l ctx, l.length = 2 → Q ⟨l, store, outbox⟩ ctx) :
    m.receive.Meets (.alone draws) Q ⟨[], store, outbox⟩ := by
  refine ⟨trivial, fun fresh σ hfresh => ?_⟩
  obtain ⟨t, -, -, rfl⟩ := Setting.eq_of_alone_answers (e := .identifier) trivial hfresh
  refine ⟨trivial, fun now σ hnow => ?_⟩
  obtain ⟨t', -, -, rfl⟩ := Setting.eq_of_alone_answers (e := .clock) trivial hnow
  exact h _ _ rfl

/-- Calls of a kind are answered so, if no fault of the store and no
deadline disturbs them, and leave the store. None is aborted. -/
def Answered (s : Service) (w : World) (asks : Incoming → Prop)
    (answer : Except Status RpcResponse) : Prop :=
  ∀ c, asks c → (∀ t ∈ (s.handle c.metadata c.request).trace c.draws 0 w, t.Undisturbed) →
    ((s.handle c.metadata c.request).run c.draws 0 w).result = answer.mapError .reported ∧
      ((s.handle c.metadata c.request).run c.draws 0 w).world.store = w.store

/-- What the procedure of a call ends with is what the call is answered. -/
theorem answered_of_comesTo {asks : Incoming → Prop} {r : Except ServiceError RpcResponse}
    (h : ∀ c, asks c → ∀ ctx l, l.length = 2 →
      ComesTo c.draws r (s.serve ctx c.request) ⟨l, w.store, w.outbox⟩) :
    s.Answered w asks (r.mapError Status.ofError) := by
  intro c hc hsteps
  have hmeets : (s.handle c.metadata c.request).Meets (.alone c.draws)
      (fun σ r' => (∀ t ∈ σ.taken, t.Undisturbed) →
        r' = (r.mapError Status.ofError).mapError .reported ∧ σ.store = w.store)
      ⟨[], w.store, w.outbox⟩ := by
    refine Program.meets_bind.2 (receive_alone c.metadata fun l ctx hl => ?_)
    refine Program.meets_bind.2 (Program.Meets.mono (h c hc ctx l hl) fun σ r' hr' => ?_)
    cases r' with
    | ok a =>
      intro hσ
      obtain ⟨rfl, hstore⟩ := hr' hσ
      exact ⟨rfl, hstore⟩
    | error e =>
      intro hσ
      obtain ⟨hr, hstore⟩ := hr' hσ
      cases r with
      | ok a => cases hr
      | error err =>
        obtain rfl := Except.error.inj hr
        exact ⟨rfl, hstore⟩
  exact Program.run_of_meets_alone (l := []) hmeets hsteps

theorem told_account? (store : Store) (id : Int) :
    (((store.accountById id).mapError ServiceError.ofLookup).map
      fun a => RpcResponse.user (.ofAccount a)).mapError Status.ofError =
        told (store.account? id) := by
  unfold Store.accountById
  cases store.account? id <;> rfl

theorem told_accountWithEmail? (store : Store) (email : String) :
    (((store.accountByEmail email).mapError ServiceError.ofLookup).map
      fun a => RpcResponse.user (.ofAccount a)).mapError Status.ofError =
        told (store.accountWithEmail? email) := by
  unfold Store.accountByEmail
  cases store.accountWithEmail? email <;> rfl

/-- By its number. -/
theorem answered_getUser (s : Service) (w : World) (n : UInt64) :
    s.Answered w (·.request = .getUser n) (w.store.shown n) := by
  unfold Store.shown
  cases hid : idFromWire? n with
  | some id =>
    rw [Option.bind_some, ← told_account?]
    refine answered_of_comesTo fun c hc ctx l _ => ?_
    rw [hc]
    refine meets_bind.2 (meets_expect.2 ⟨fun id' hid' => ?_, fun hnone => ?_⟩)
    · obtain rfl := Option.some.inj (hid.symm.trans hid')
      exact comesTo_look (q := .accountById id) (w.store.accountById id) fun _ => rfl
    · rw [hid] at hnone
      cases hnone
  | none =>
    refine answered_of_comesTo (r := .error .accountNotFound) fun c hc ctx l _ => ?_
    rw [hc]
    refine meets_bind.2 (meets_expect.2 ⟨fun id' hid' => ?_, fun _ _ => ⟨rfl, rfl⟩⟩)
    rw [hid] at hid'
    cases hid'

/-- By its address. -/
theorem answered_getUserByEmail (s : Service) (w : World) (email : String) :
    s.Answered w (·.request = .getUserByEmail email) (told (w.store.accountWithEmail? email)) := by
  rw [← told_accountWithEmail?]
  refine answered_of_comesTo fun c hc ctx l _ => ?_
  rw [hc]
  exact comesTo_look (q := .accountByEmail email) (w.store.accountByEmail email) fun _ => rfl

/-- A call with an access token that admits an account at the time at which
the call looks at it: this is its third step. -/
def TokenAdmits (s : Service) (id : Int) (c : Incoming) : Prop :=
  ∃ token, c.request = .getMe token ∧
    s.issuer.parseAccess (c.draws 2 .clock).moment.seconds token = some id

/-- By an access token. -/
theorem answered_getMe (s : Service) (w : World) (id : Int) :
    s.Answered w (s.TokenAdmits id) (told (w.store.account? id)) := by
  rw [← told_account?]
  refine answered_of_comesTo fun c hc ctx l hl => ?_
  obtain ⟨token, hrequest, hadmits⟩ := hc
  rw [hrequest]
  unfold serve ComesTo getMe accountOfAccess
  simp only [bind_assoc]
  refine meets_bind.2 (meets_alone_now fun l' _ => ?_)
  rw [hl, hadmits]
  exact comesTo_look (q := .accountById id) (w.store.accountById id) fun _ => rfl

/-- All of them. -/
theorem answered_getUsers (s : Service) (w : World) :
    s.Answered w (·.request = .getUsers none)
      (.ok (.users (w.store.accounts.map UserMessage.ofAccount))) :=
  fun _ hc hsteps => handle_getUsers hc hsteps

/-! ## The theorem -/

/-- Numbers of accounts are numbers for callers. -/
theorem Reaches.exists_wire (h : s.Reaches l w) (hfew : w.store.accounts.length < 2 ^ 63)
    (ha : a ∈ w.store.accounts) : ∃ n : UInt64, idToWire a.id = n.toNat := by
  obtain ⟨hpos, hlt⟩ := h.id_lt hfew ha
  have hfits : idToWire a.id < 2 ^ 64 := by
    unfold idToWire
    omega
  exact ⟨UInt64.ofNat (idToWire a.id), (UInt64.toNat_ofNat_of_lt' hfits).symm⟩

/-- Who is told of an account is shown what its number shows. -/
theorem Reaches.answered_shown (h : s.Reaches l w) (hfew : w.store.accounts.length < 2 ^ 63)
    (ha : a ∈ w.store.accounts) {asks : Incoming → Prop}
    (hanswered : s.Answered w asks (told (some a))) :
    ∃ n, idToWire a.id = n.toNat ∧ s.Answered w asks (w.store.shown n) := by
  obtain ⟨n, hn⟩ := h.exists_wire hfew ha
  refine ⟨n, hn, ?_⟩
  rw [h.shown_of_mem hfew ha hn]
  exact hanswered

/-- What is shown are the accounts that there are. -/
theorem Reaches.shown_eq_ok_iff (h : s.Reaches l w) (hfew : w.store.accounts.length < 2 ^ 63)
    {u : UserMessage} : w.store.shown n = .ok (.user u) ↔
      ∃ a ∈ w.store.accounts, idToWire a.id = n.toNat ∧ u = .ofAccount a := by
  constructor
  · intro hshown
    by_cases hsome : ∃ a ∈ w.store.accounts, idToWire a.id = n.toNat
    · obtain ⟨a, ha, hn⟩ := hsome
      rw [h.shown_of_mem hfew ha hn] at hshown
      exact ⟨a, ha, hn, (RpcResponse.user.inj (Except.ok.inj hshown)).symm⟩
    · push Not at hsome
      rw [shown_of_forall_ne hsome] at hshown
      cases hshown
  · rintro ⟨a, ha, hn, rfl⟩
    exact h.shown_of_mem hfew ha hn

/-- **All ways to an account agree.** In a world that is reached, with as
many accounts as there are numbers for:

Whoever asks by a number is shown the account that was registered under it,
with this number and with the address that it was registered with, and is
told that there is none exactly if none was; above the signed range there is
none. Whoever asks by an address is shown what its number shows, if the very
address was registered, and is told that there is none otherwise. The
listing of all has just what numbers show, in their order. And a token shows
what the number shows that it was signed for, and nothing if no account was
registered under it, as under zero and all numbers below. -/
theorem reads_agree (s : Service) {l : List Transition} (hw : s.Reaches l w)
    (hfew : w.store.accounts.length < 2 ^ 63) :
    let shown := w.store.shown
    let nothing : Except Status RpcResponse := .error ⟨.notFound, "user not found"⟩
    ((∀ n, s.Answered w (·.request = .getUser n) (shown n)) ∧
      (∀ n email id, Registered l email id → idToWire id = n.toNat →
        ∃ u, shown n = .ok (.user u) ∧ u.id = n.toNat ∧ u.email = email) ∧
      (∀ n, (∀ email id, Registered l email id → idToWire id ≠ n.toNat) → shown n = nothing) ∧
      ∀ n, 2 ^ 63 ≤ n.toNat → shown n = nothing) ∧
    ((∀ email id, Registered l email id → ∃ n, idToWire id = n.toNat ∧
        s.Answered w (·.request = .getUserByEmail email) (shown n)) ∧
      ∀ email, (∀ id, ¬ Registered l email id) →
        s.Answered w (·.request = .getUserByEmail email) nothing) ∧
    (∃ us, s.Answered w (·.request = .getUsers none) (.ok (.users us)) ∧
      us.Pairwise (fun u v => u.id < v.id) ∧
      ∀ u, u ∈ us ↔ ∃ n, shown n = .ok (.user u)) ∧
    (∀ email id, Registered l email id → ∃ n, idToWire id = n.toNat ∧
        s.Answered w (s.TokenAdmits id) (shown n)) ∧
      (∀ id, (∀ email, ¬ Registered l email id) → s.Answered w (s.TokenAdmits id) nothing) ∧
      ∀ id ≤ 0, s.Answered w (s.TokenAdmits id) nothing := by
  intro shown nothing
  have hbyId {id : Int} (hnone : ∀ email, ¬ Registered l email id) :
      s.Answered w (s.TokenAdmits id) nothing := by
    have hanswered := s.answered_getMe w id
    rwa [hw.account?_eq_none hnone] at hanswered
  refine ⟨⟨s.answered_getUser w, fun n email id hreg hn => ?_, fun n hnone => ?_, fun n hn => ?_⟩,
    ⟨fun email id hreg => ?_, fun email hnone => ?_⟩, ⟨_, s.answered_getUsers w, ?_, fun u => ?_⟩,
    fun email id hreg => ?_, fun id => hbyId, fun id hid => hbyId fun email hreg => ?_⟩
  · obtain ⟨a, ha, rfl, rfl⟩ := hw.registered_iff.1 hreg
    exact ⟨_, hw.shown_of_mem hfew ha hn, hn, rfl⟩
  · exact shown_of_forall_ne fun a ha =>
      hnone a.email a.id (hw.registered_iff.2 ⟨a, ha, rfl, rfl⟩)
  · show told _ = _
    rw [idFromWire?_of_le hn]
    rfl
  · obtain ⟨a, ha, rfl, rfl⟩ := hw.registered_iff.1 hreg
    have hanswered := s.answered_getUserByEmail w a.email
    rw [hw.accounts.accountWithEmail?_eq_some_iff.2 ⟨ha, rfl⟩] at hanswered
    exact hw.answered_shown hfew ha hanswered
  · have hanswered := s.answered_getUserByEmail w email
    rwa [hw.accountWithEmail?_eq_none hnone] at hanswered
  · refine List.pairwise_map.2 (hw.accounts.ids.imp_of_mem fun {a b} ha hb hlt => ?_)
    have hpos := hw.accounts.positive a ha
    show a.id.natAbs < b.id.natAbs
    omega
  · rw [List.mem_map]
    simp only [shown, hw.shown_eq_ok_iff hfew]
    constructor
    · rintro ⟨a, ha, rfl⟩
      obtain ⟨n, hn⟩ := hw.exists_wire hfew ha
      exact ⟨n, a, ha, hn, rfl⟩
    · rintro ⟨n, a, ha, -, rfl⟩
      exact ⟨a, ha, rfl⟩
  · obtain ⟨a, ha, rfl, rfl⟩ := hw.registered_iff.1 hreg
    have hanswered := s.answered_getMe w a.id
    rw [hw.accounts.account?_eq_some_iff.2 ⟨ha, rfl⟩] at hanswered
    exact hw.answered_shown hfew ha hanswered
  · obtain ⟨a, ha, rfl, -⟩ := hw.registered_iff.1 hreg
    have hpos := hw.accounts.positive a ha
    omega

/-- After the first registration the owner is found in every way. -/
theorem reads_agree_plain : ∃ l w u token, plain.Reaches l w ∧
    w.store.accounts.length < 2 ^ 63 ∧ u.email = "owner@example.org" ∧
    let answer request := ((plain.handle {} request).run (calmDraws 0 toString) 0 w).result
    answer (.getUser 1) = .ok (.user u) ∧
      answer (.getUserByEmail "owner@example.org") = .ok (.user u) ∧
      (∃ us, answer (.getUsers none) = .ok (.users us) ∧ u ∈ us) ∧
      answer (.getMe token) = .ok (.user u) ∧
      answer (.getUser 0x8000000000000000) =
        .error (.reported ⟨.notFound, "user not found"⟩) := by
  obtain ⟨e, hash, hes, -, -, -, hstore⟩ := exists_account_plain
  obtain ⟨l, hw, -, -⟩ := hes.exists_reaches rfl
  obtain ⟨token, htoken⟩ := exists_account_token ready_plain (by decide : (0 : Int) < 60)
    (by decide) (by decide : Fits64 1) .access
  let w := plain.after {} [e]
  have hfew : w.store.accounts.length < 2 ^ 63 := by
    rw [hstore]
    exact (by decide : 1 < 2 ^ 63)
  have hreg : Registered l "owner@example.org" 1 := by
    rw [hw.registered_iff, hstore]
    exact ⟨_, List.mem_singleton_self _, rfl, rfl⟩
  obtain ⟨⟨hbyId, hshown, -, hlarge⟩, ⟨hbyEmail, -⟩, ⟨us, hall, -, hus⟩, hme, -, -⟩ :=
    reads_agree plain hw hfew
  obtain ⟨u, hu, -, hemail⟩ := hshown 1 _ _ hreg rfl
  have hcall {asks : Incoming → Prop} {request : RpcRequest} {answer}
      (hanswered : plain.Answered w asks answer) (hasks : asks ⟨{}, request, calmDraws 0 toString⟩)
      (huses : ∀ ctx, (plain.serve ctx request).Uses (Effect.IsFor ctx)) :
      ((plain.handle {} request).run (calmDraws 0 toString) 0 w).result =
        answer.mapError .reported :=
    (hanswered _ hasks (undisturbed_handle huses 0 toString w)).1
  have hlook {ctx : RequestContext} {q : Query} {f : q.Answer → RpcResponse}
      {failure : StoreError → ServiceError} :
      Uses (Effect.IsFor ctx) (ask ctx q failure >>= fun x => pure (f x)) :=
    (uses_ask (P := Effect.IsFor ctx) rfl failure).bind fun _ => uses_pure _
  have howner := hbyId 1
  rw [hu] at howner
  -- the number of the owner is the only one on the wire that stands for 1
  have hone {n : UInt64} (hn : idToWire 1 = n.toNat) :
      w.store.shown n = .ok (.user u) := by
    obtain rfl : n = 1 := UInt64.toNat_inj.1 hn.symm
    exact hu
  obtain ⟨n, hn, hbyEmail⟩ := hbyEmail _ _ hreg
  obtain ⟨m, hm, hme⟩ := hme _ _ hreg
  rw [hone hn] at hbyEmail
  rw [hone hm] at hme
  have habove := hbyId 0x8000000000000000
  rw [hlarge 0x8000000000000000 (by decide)] at habove
  refine ⟨l, w, u, token, hw, hfew, hemail, hcall howner rfl fun ctx => ?_,
    hcall hbyEmail rfl fun ctx => hlook, ⟨us, hcall hall rfl fun ctx => hlook, (hus u).2 ⟨1, hu⟩⟩,
    hcall hme ⟨token, rfl, htoken⟩ fun ctx => ?_, hcall habove rfl fun ctx => ?_⟩
  · exact (uses_expect _ _).bind fun _ => hlook
  · exact ((plain.quiet_getMe ctx token).mono fun _ he => he.2).bind fun _ => uses_pure _
  · exact (uses_expect _ _).bind fun _ => hlook

end Service

end SignOn
