import Mathlib.Data.List.Nodup
import SignOn.Store.Query
/-!
# Accounts stay

No query removes an account, gives it another id or another address, or
takes back that the address is confirmed. `Store.AccountsInOrder` says
that an id and an address name one account each, and
`Store.AccountsRemain` that the accounts of one store are still there in
another.
-/

namespace SignOn

/-- What an account is known by stays, and a confirmed address stays
confirmed. -/
structure Account.Remains (a a' : Account) : Prop where
  id : a'.id = a.id
  email : a'.email = a.email
  confirmed : a.emailConfirmed = true → a'.emailConfirmed = true

theorem Account.Remains.refl (a : Account) : a.Remains a :=
  ⟨rfl, rfl, fun h => h⟩

theorem Account.Remains.trans {a b c : Account} (h : a.Remains b) (h' : b.Remains c) :
    a.Remains c :=
  ⟨h'.id.trans h.id, h'.email.trans h.email, fun ha => h'.confirmed (h.confirmed ha)⟩

namespace Store

variable {s s' s'' : Store} {now : Int} {a b : Account}

/-! ## An id and an address name one account -/

/-- Ids count up to the last one given, and no address is given twice. -/
structure AccountsInOrder (s : Store) : Prop where
  ids : s.accounts.Pairwise fun a b => a.id < b.id
  positive : ∀ a ∈ s.accounts, 0 < a.id
  le_last : ∀ a ∈ s.accounts, a.id ≤ s.lastAccountId
  last_nonneg : 0 ≤ s.lastAccountId
  emails : (s.accounts.map (·.email)).Nodup

theorem AccountsInOrder.eq_of_id_eq (h : s.AccountsInOrder) (ha : a ∈ s.accounts)
    (hb : b ∈ s.accounts) (hid : a.id = b.id) : a = b := by
  have hids : (s.accounts.map (·.id)).Nodup :=
    List.pairwise_map.2 (h.ids.imp fun hlt => Int.ne_of_lt hlt)
  exact List.inj_on_of_nodup_map hids ha hb hid

theorem AccountsInOrder.eq_of_email_eq (h : s.AccountsInOrder) (ha : a ∈ s.accounts)
    (hb : b ∈ s.accounts) (hemail : a.email = b.email) : a = b :=
  List.inj_on_of_nodup_map h.emails ha hb hemail

theorem AccountsInOrder.account?_eq_some_iff (h : s.AccountsInOrder) {id : Int} :
    s.account? id = some a ↔ a ∈ s.accounts ∧ a.id = id := by
  constructor
  · intro hfind
    exact ⟨List.mem_of_find?_eq_some hfind, by simpa using List.find?_some hfind⟩
  · rintro ⟨ha, rfl⟩
    obtain ⟨b, hb⟩ := Option.isSome_iff_exists.1
      (List.find?_isSome (p := fun b : Account => b.id == a.id) |>.2 ⟨a, ha, by simp⟩)
    have hid : b.id = a.id := by simpa using List.find?_some hb
    rw [account?, hb, h.eq_of_id_eq (List.mem_of_find?_eq_some hb) ha hid]

theorem AccountsInOrder.accountWithEmail?_eq_some_iff (h : s.AccountsInOrder) {email : String} :
    s.accountWithEmail? email = some a ↔ a ∈ s.accounts ∧ a.email = email := by
  constructor
  · intro hfind
    exact ⟨List.mem_of_find?_eq_some hfind, by simpa using List.find?_some hfind⟩
  · rintro ⟨ha, rfl⟩
    obtain ⟨b, hb⟩ := Option.isSome_iff_exists.1
      (List.find?_isSome (p := fun b : Account => b.email == a.email) |>.2 ⟨a, ha, by simp⟩)
    have hemail : b.email = a.email := by simpa using List.find?_some hb
    rw [accountWithEmail?, hb, h.eq_of_email_eq (List.mem_of_find?_eq_some hb) ha hemail]

/-- An account that is found by its address is there. -/
theorem mem_of_accountByEmail {email : String} (h : s.accountByEmail email = .ok a) :
    a ∈ s.accounts ∧ a.email = email := by
  unfold accountByEmail accountWithEmail? at h
  split at h
  · next b hb =>
    cases h
    exact ⟨List.mem_of_find?_eq_some hb, by simpa using List.find?_some hb⟩
  · cases h

/-- An account that is found by its number is there. -/
theorem mem_of_accountById {id : Int} (h : s.accountById id = .ok a) :
    a ∈ s.accounts ∧ a.id = id := by
  unfold accountById account? at h
  split at h
  · next b hb =>
    cases h
    exact ⟨List.mem_of_find?_eq_some hb, by simpa using List.find?_some hb⟩
  · cases h

/-- No account is found exactly if none has the address. -/
theorem accountByEmail_eq_error_iff {email : String} {e : StoreError} :
    s.accountByEmail email = .error e ↔
      e = .noAccountWithEmail email ∧ ∀ a ∈ s.accounts, a.email ≠ email := by
  have hnone : s.accountWithEmail? email = none ↔ ∀ a ∈ s.accounts, a.email ≠ email := by
    simp [accountWithEmail?]
  rw [← hnone, accountByEmail]
  cases s.accountWithEmail? email with
  | none => simp [eq_comm]
  | some a => simp

/-- An id has no account exactly if none is found. -/
theorem account?_isNone_iff {id : Int} :
    (s.account? id).isNone = true ↔ ∀ a ∈ s.accounts, a.id ≠ id := by
  simp [account?]

theorem accountById_eq_error_iff {id : Int} {e : StoreError} :
    s.accountById id = .error e ↔ e = .noAccount id ∧ ∀ a ∈ s.accounts, a.id ≠ id := by
  rw [← account?_isNone_iff, accountById]
  cases s.account? id with
  | none => simp [eq_comm]
  | some a => simp

/-! ## What a query does to accounts -/

/-- The account that an insertion adds. -/
def opened (s : Store) (now : Int) (new : NewAccount) : Account :=
  { id := s.lastAccountId + 1, email := new.email, passwordHash := new.passwordHash,
    displayName := new.displayName, createdAt := now, updatedAt := now }

/-- A store whose accounts were changed, none of them in what it is known
by. -/
def AccountsRevised (s s' : Store) : Prop :=
  (∃ f : Account → Account, (∀ a : Account, a.Remains (f a)) ∧ s'.accounts = s.accounts.map f) ∧
    s'.lastAccountId = s.lastAccountId

/-- Two stores have the same accounts. -/
def SameAccounts (s s' : Store) : Prop :=
  s'.accounts = s.accounts ∧ s'.lastAccountId = s.lastAccountId

/-- A store that was given one more account, with an address of its
own. -/
def AccountsExtended (now : Int) (s s' : Store) : Prop :=
  ∃ new : NewAccount, (∀ a ∈ s.accounts, a.email ≠ new.email) ∧
    s'.accounts = s.accounts ++ [s.opened now new] ∧ s'.lastAccountId = s.lastAccountId + 1

theorem SameAccounts.refl (s : Store) : s.SameAccounts s :=
  ⟨rfl, rfl⟩

theorem SameAccounts.trans (h : s.SameAccounts s') (h' : s'.SameAccounts s'') :
    s.SameAccounts s'' :=
  ⟨h'.1.trans h.1, h'.2.trans h.2⟩

theorem SameAccounts.revised (h : s.SameAccounts s') : s.AccountsRevised s' :=
  ⟨⟨id, .refl, h.1.trans (List.map_id _).symm⟩, h.2⟩

/-- Sessions are opened and ended without a change of accounts. -/
theorem sameAccounts_of_openSession {u ttl id : Int} {v : String}
    (h : s.openSession now u v ttl = .ok (id, s')) : s.SameAccounts s' := by
  unfold openSession insertSession at h
  split at h
  · cases h
  · split at h
    · cases h
    · cases h
      exact .refl _

theorem sameAccounts_of_endSession {v : String} (h : s.endSession now v = .ok s') :
    s.SameAccounts s' := by
  unfold endSession at h
  split at h
  · cases h
    exact .refl _
  · cases h

theorem accountsRevised_of_changeAccount {id : Int} {f : Account → Account}
    (hf : ∀ a : Account, a.Remains (f a)) (h : s.changeAccount now id f = .ok s') :
    s.AccountsRevised s' := by
  unfold changeAccount at h
  split at h
  · cases h
    refine ⟨⟨_, fun a => ?_, rfl⟩, rfl⟩
    split
    · exact (hf a).trans ⟨rfl, rfl, fun ha => ha⟩
    · exact .refl a
  · cases h

/-- An account after a change is as it was, or it is the one that was
changed. -/
theorem mem_of_changeAccount {id : Int} {f : Account → Account}
    (h : s.changeAccount now id f = .ok s') (ha : a ∈ s'.accounts) :
    a ∈ s.accounts ∨ ∃ b ∈ s.accounts, b.id = id ∧ a = { f b with updatedAt := now } := by
  unfold changeAccount at h
  split at h
  · cases h
    obtain ⟨b, hb, rfl⟩ := List.mem_map.1 ha
    by_cases hid : b.id = id
    · rw [if_pos hid]
      exact .inr ⟨b, hb, hid, rfl⟩
    · rw [if_neg hid]
      exact .inl hb
  · cases h

/-- Whoever changes an account changes one that is there. -/
theorem exists_of_changeAccount {id : Int} {f : Account → Account}
    (h : s.changeAccount now id f = .ok s') : ∃ a ∈ s.accounts, a.id = id := by
  unfold changeAccount at h
  split at h
  · next hsome =>
    obtain ⟨a, ha⟩ := Option.isSome_iff_exists.1 hsome
    exact ⟨a, List.mem_of_find?_eq_some ha, by simpa using List.find?_some ha⟩
  · cases h

/-- An account that is there can be changed. -/
theorem exists_changeAccount_eq_ok {id : Int} (now : Int) (f : Account → Account)
    (h : ∃ a ∈ s.accounts, a.id = id) : ∃ s', s.changeAccount now id f = .ok s' := by
  have hfound : (s.account? id).isSome := by
    obtain ⟨a, ha, hid⟩ := h
    exact List.find?_isSome.2 ⟨a, ha, by simpa using hid⟩
  exact ⟨_, if_pos hfound⟩

/-- The address of an account that is there is confirmed, if it was
not. -/
theorem AccountsInOrder.confirmEmail_eq_ok (h : s.AccountsInOrder) (ha : a ∈ s.accounts)
    (hconfirmed : a.emailConfirmed = false) :
    s.confirmEmail now a.id =
      .ok (s.mapAccount a.id fun b => { b with emailConfirmed := true, updatedAt := now }) := by
  have hfound := h.account?_eq_some_iff.2 ⟨ha, rfl⟩
  rw [confirmEmail, hfound]
  simp [hconfirmed, changeAccount, hfound]

theorem accountsRevised_of_confirmEmail {id : Int} (h : s.confirmEmail now id = .ok s') :
    s.AccountsRevised s' := by
  unfold confirmEmail at h
  split at h
  · cases h
  · split at h
    · cases h
    · refine accountsRevised_of_changeAccount ?_ h
      exact fun a => ⟨rfl, rfl, fun _ => rfl⟩

/-- An account is added if its address is free. -/
theorem insertAccount_eq_ok (now : Int) {new : NewAccount}
    (hfree : ∀ a ∈ s.accounts, a.email ≠ new.email) :
    s.insertAccount now new =
      .ok (s.lastAccountId + 1, { s with
        accounts := s.accounts ++ [s.opened now new]
        lastAccountId := s.lastAccountId + 1 }) := by
  unfold insertAccount
  rw [if_neg (by simpa using hfree)]
  rfl

theorem accountsExtended_of_insertAccount {new : NewAccount} {id : Int}
    (h : s.insertAccount now new = .ok (id, s')) : s.AccountsExtended now s' := by
  unfold insertAccount at h
  split at h
  · cases h
  · next hfree =>
    cases h
    refine ⟨new, fun a ha he => hfree ?_, rfl, rfl⟩
    exact List.any_eq_true.2 ⟨a, ha, by simpa using he⟩

/-! ## Results of a query -/

theorem unchanged_eq_ok_iff {α : Type} {x : Except StoreError α} {a : α} :
    s.unchanged x = .ok (a, s') ↔ x = .ok a ∧ s' = s := by
  cases x <;> simp [unchanged, eq_comm]

theorem unchanged_eq_error_iff {α : Type} {x : Except StoreError α} {e : StoreError} :
    s.unchanged x = .error e ↔ x = .error e := by
  cases x <;> simp [unchanged]

theorem changed_eq_ok_iff {x : Except StoreError Store} {u : Unit} :
    changed x = .ok (u, s') ↔ x = .ok s' := by
  cases x <;> simp [changed]

theorem changed_eq_error_iff {x : Except StoreError Store} {e : StoreError} :
    changed x = .error e ↔ x = .error e := by
  cases x <;> simp [changed]

/-- **A query changes accounts or adds one**, and nothing else happens to
them. -/
theorem accounts_of_run {q : Query} {x : q.Answer} (h : s.run now q = .ok (x, s')) :
    s.AccountsRevised s' ∨ s.AccountsExtended now s' := by
  have hsame : s' = s → s.AccountsRevised s' := by
    rintro rfl
    exact (SameAccounts.refl s').revised
  cases q with
  | insertAccount new => exact .inr (accountsExtended_of_insertAccount h)
  | accountById id => exact .inl (hsame (unchanged_eq_ok_iff.1 h).2)
  | accountByEmail email => exact .inl (hsame (unchanged_eq_ok_iff.1 h).2)
  | listAccounts page =>
    cases h
    exact .inl (hsame rfl)
  | updateProfile id patch =>
    refine .inl (accountsRevised_of_changeAccount ?_ (changed_eq_ok_iff.1 h))
    exact fun a => ⟨rfl, rfl, fun ha => ha⟩
  | confirmEmail id => exact .inl (accountsRevised_of_confirmEmail (changed_eq_ok_iff.1 h))
  | setPassword id hash =>
    refine .inl (accountsRevised_of_changeAccount ?_ (changed_eq_ok_iff.1 h))
    exact fun a => ⟨rfl, rfl, fun ha => ha⟩
  | openSession accountId value ttl => exact .inl (sameAccounts_of_openSession h).revised
  | liveSession accountId => exact .inl (hsame (unchanged_eq_ok_iff.1 h).2)
  | endSession value =>
    exact .inl (sameAccounts_of_endSession (changed_eq_ok_iff.1 h)).revised
  | purge before =>
    cases h
    exact .inl (SameAccounts.refl s).revised

/-! ## Accounts remain -/

/-- The accounts of a store are still there. -/
def AccountsRemain (s s' : Store) : Prop :=
  ∀ a ∈ s.accounts, ∃ a' ∈ s'.accounts, a.Remains a'

theorem AccountsRemain.refl (s : Store) : s.AccountsRemain s :=
  fun a ha => ⟨a, ha, .refl a⟩

theorem AccountsRemain.trans (h : s.AccountsRemain s') (h' : s'.AccountsRemain s'') :
    s.AccountsRemain s'' := by
  intro a ha
  obtain ⟨b, hb, hab⟩ := h a ha
  obtain ⟨c, hc, hbc⟩ := h' b hb
  exact ⟨c, hc, hab.trans hbc⟩

/-- **A query keeps the accounts.** -/
theorem accountsRemain_of_run {q : Query} {x : q.Answer} (h : s.run now q = .ok (x, s')) :
    s.AccountsRemain s' := by
  intro a ha
  rcases accounts_of_run h with ⟨⟨f, hf, heq⟩, -⟩ | ⟨new, -, heq, -⟩
  · exact ⟨f a, heq ▸ List.mem_map_of_mem ha, hf a⟩
  · exact ⟨a, heq ▸ List.mem_append_left _ ha, .refl a⟩

/-- Ids count up. -/
theorem lastAccountId_le_of_run {q : Query} {x : q.Answer} (h : s.run now q = .ok (x, s')) :
    s.lastAccountId ≤ s'.lastAccountId := by
  rcases accounts_of_run h with ⟨-, heq⟩ | ⟨new, -, -, heq⟩ <;> omega

theorem accountsInOrder_empty : empty.AccountsInOrder :=
  ⟨.nil, by simp [empty], by simp [empty], by decide, .nil⟩

/-- **A query keeps the accounts in order.** -/
theorem AccountsInOrder.run (hs : s.AccountsInOrder) {q : Query} {x : q.Answer}
    (h : s.run now q = .ok (x, s')) : s'.AccountsInOrder := by
  rcases accounts_of_run h with ⟨⟨f, hf, heq⟩, hid⟩ | ⟨new, hnew, heq, hid⟩
  · refine ⟨?_, ?_, ?_, hid ▸ hs.last_nonneg, ?_⟩
    · rw [heq, List.pairwise_map]
      exact hs.ids.imp fun hab => by rwa [(hf _).id, (hf _).id]
    · rw [heq, List.forall_mem_map]
      exact fun a ha => (hf a).id ▸ hs.positive a ha
    · rw [heq, List.forall_mem_map, hid]
      exact fun a ha => (hf a).id ▸ hs.le_last a ha
    · have hemails : (·.email) ∘ f = fun a : Account => a.email := funext fun a => (hf a).email
      rw [heq, List.map_map, hemails]
      exact hs.emails
  · -- the new account has the next id, and an address that nobody has
    have hnew_id : (s.opened now new).id = s.lastAccountId + 1 := rfl
    have hnonneg := hs.last_nonneg
    refine ⟨?_, ?_, ?_, by omega, ?_⟩
    · rw [heq, List.pairwise_append]
      refine ⟨hs.ids, List.pairwise_singleton _ _, fun a ha b hb => ?_⟩
      have := hs.le_last a ha
      rw [List.mem_singleton.1 hb, hnew_id]
      omega
    · intro a ha
      rcases List.mem_append.1 (heq ▸ ha) with ha | ha
      · exact hs.positive a ha
      · rw [List.mem_singleton.1 ha, hnew_id]
        omega
    · intro a ha
      rw [hid]
      rcases List.mem_append.1 (heq ▸ ha) with ha | ha
      · have := hs.le_last a ha
        omega
      · rw [List.mem_singleton.1 ha]
        exact Int.le_of_eq hnew_id
    · rw [heq, List.map_append, List.map_singleton, List.nodup_append]
      refine ⟨hs.emails, List.nodup_singleton _, fun e he e' he' => ?_⟩
      obtain ⟨a, ha, rfl⟩ := List.mem_map.1 he
      rw [List.mem_singleton.1 he']
      exact hnew a ha

end Store

end SignOn
