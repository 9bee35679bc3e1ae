import SignOn.Proofs.Store.Accounts
/-!
# What a query makes of accounts

A query that succeeds revises the accounts that are there, one by one, and
adds at most one, at the end: `Store.accounts_eq_of_run`. Only four
queries do either, and what they can do to a field of an account can be
read off `Query.revise`.
-/

namespace SignOn

/-- What an account was opened with and keeps: its id, its address, and
when it was opened. -/
def Account.origin (a : Account) : Int × String × Int :=
  (a.id, a.email, a.createdAt)

namespace Query

/-- Queries that write to the accounts. -/
def writes : Query → Bool
  | .insertAccount _ | .updateProfile _ _ | .confirmEmail _ | .setPassword _ _ => true
  | _ => false

/-- What a query that succeeds at a time makes of an account that is
there. -/
def revise (now : Int) : Query → Account → Account
  | .updateProfile id patch, a => if a.id = id then { patch.apply a with updatedAt := now } else a
  | .confirmEmail id, a =>
    if a.id = id then { a with emailConfirmed := true, updatedAt := now } else a
  | .setPassword id hash, a =>
    if a.id = id then { a with passwordHash := hash, updatedAt := now } else a
  | _, a => a

/-- The account that a query adds to a store, if it adds one. -/
def added? (now : Int) (s : Store) : Query → Option Account
  | .insertAccount new => some (s.opened now new)
  | _ => none

variable {q : Query} {now : Int} {a : Account}

@[simp] theorem revise_id : (q.revise now a).id = a.id := by
  cases q <;> simp only [revise] <;> split <;> rfl

@[simp] theorem revise_email : (q.revise now a).email = a.email := by
  cases q <;> simp only [revise] <;> split <;> rfl

@[simp] theorem revise_createdAt : (q.revise now a).createdAt = a.createdAt := by
  cases q <;> simp only [revise] <;> split <;> rfl

/-- An address is confirmed by one query only, and stays confirmed. -/
theorem emailConfirmed_revise_iff : (q.revise now a).emailConfirmed = true ↔
    a.emailConfirmed = true ∨ q = .confirmEmail a.id := by
  cases q with
  | confirmEmail id =>
    by_cases hid : a.id = id
    · simp [revise, hid]
    · simp [revise, hid, Ne.symm hid]
  | updateProfile id patch | setPassword id hash =>
    simp only [revise]
    split <;> simp [ProfilePatch.apply]
  | _ => simp [revise]

/-- A hash is set by one query only. -/
theorem passwordHash_revise (q : Query) (now : Int) (a : Account) :
    (q.revise now a).passwordHash = a.passwordHash ∨
      ∃ hash, q = .setPassword a.id hash ∧ (q.revise now a).passwordHash = hash := by
  cases q with
  | setPassword id hash =>
    by_cases hid : a.id = id
    · simp [revise, hid]
    · simp [revise, hid]
  | updateProfile id patch | confirmEmail id =>
    left
    simp only [revise]
    split <;> rfl
  | _ => exact .inl rfl

/-- So is a name. -/
theorem displayName_revise (q : Query) (now : Int) (a : Account) :
    (q.revise now a).displayName = a.displayName ∨ ∃ patch, q = .updateProfile a.id patch := by
  cases q with
  | updateProfile id patch =>
    by_cases hid : a.id = id
    · exact .inr ⟨patch, by rw [hid]⟩
    · simp [revise, hid]
  | setPassword id hash | confirmEmail id =>
    left
    simp only [revise]
    split <;> rfl
  | _ => exact .inl rfl

/-- Every change is dated. -/
theorem updatedAt_revise (q : Query) (now : Int) (a : Account) :
    (q.revise now a).updatedAt = a.updatedAt ∨ (q.revise now a).updatedAt = now := by
  cases q <;> simp only [revise] <;> try split
  all_goals simp

theorem remains_revise : a.Remains (q.revise now a) :=
  ⟨revise_id, revise_email, fun h => emailConfirmed_revise_iff.2 (.inl h)⟩

/-- A query that does not write leaves an account as it is. -/
theorem revise_of_not_writes (h : q.writes = false) : q.revise now a = a := by
  cases q <;> first | rfl | cases h

end Query

namespace Store

variable {s s' : Store} {now : Int} {q : Query} {a : Account}

/-- An account that is there is found by its number. -/
theorem isSome_account? {id : Int} (ha : ∃ a ∈ s.accounts, a.id = id) :
    (s.account? id).isSome = true := by
  obtain ⟨a, ha, rfl⟩ := ha
  exact List.find?_isSome.2 ⟨a, ha, by simp⟩

/-- Looking for it does not fail. -/
theorem accountById_ne_error {id : Int} {e : StoreError} (ha : ∃ a ∈ s.accounts, a.id = id) :
    s.accountById id ≠ .error e := by
  obtain ⟨a, hmem, hid⟩ := ha
  intro h
  exact (accountById_eq_error_iff.1 h).2 a hmem hid

/-- What a change of an account comes to. -/
theorem changeAccount_eq_ok_iff {id : Int} {f : Account → Account} :
    s.changeAccount now id f = .ok s' ↔
      (∃ a ∈ s.accounts, a.id = id) ∧
        s' = s.mapAccount id fun a => { f a with updatedAt := now } := by
  constructor
  · intro h
    refine ⟨exists_of_changeAccount h, ?_⟩
    unfold changeAccount at h
    split at h
    · exact (Except.ok.inj h).symm
    · cases h
  · rintro ⟨ha, rfl⟩
    rw [changeAccount, if_pos (isSome_account? ha)]

/-- **What a query makes of the accounts**: it revises those that are
there, and adds at most one. -/
theorem accounts_eq_of_run {x : q.Answer} (h : s.run now q = .ok (x, s')) :
    s'.accounts = s.accounts.map (q.revise now) ++ (q.added? now s).toList ∧
      s'.lastAccountId = s.lastAccountId + (q.added? now s).toList.length := by
  have hsame (hq : q.revise now = id) (hadds : q.added? now s = none) (hsame : s.SameAccounts s') :
      s'.accounts = s.accounts.map (q.revise now) ++ (q.added? now s).toList ∧
        s'.lastAccountId = s.lastAccountId + (q.added? now s).toList.length := by
    rw [hq, hadds, List.map_id, Option.toList_none, List.append_nil]
    exact ⟨hsame.1, hsame.2.trans (Int.add_zero _).symm⟩
  have hchange {id : Int} {f : Account → Account}
      (hq : q.revise now = fun a => if a.id = id then { f a with updatedAt := now } else a)
      (hadds : q.added? now s = none) (hrun : s.changeAccount now id f = .ok s') :
      s'.accounts = s.accounts.map (q.revise now) ++ (q.added? now s).toList ∧
        s'.lastAccountId = s.lastAccountId + (q.added? now s).toList.length := by
    obtain ⟨-, rfl⟩ := changeAccount_eq_ok_iff.1 hrun
    rw [hq, hadds]
    exact ⟨(List.append_nil _).symm, (Int.add_zero _).symm⟩
  cases q with
  | insertAccount new =>
    change s.insertAccount now new = .ok (x, s') at h
    unfold insertAccount at h
    split at h
    · cases h
    · cases h
      exact ⟨congrArg (· ++ _) (List.map_id _).symm, rfl⟩
  | updateProfile id patch => exact hchange rfl rfl (changed_eq_ok_iff.1 h)
  | setPassword id hash =>
    exact hchange (f := fun a => { a with passwordHash := hash }) rfl rfl (changed_eq_ok_iff.1 h)
  | confirmEmail id =>
    have h := changed_eq_ok_iff.1 h
    unfold confirmEmail at h
    split at h
    · cases h
    · split at h
      · cases h
      · exact hchange (f := fun a => { a with emailConfirmed := true }) rfl rfl h
  | openSession accountId value ttl => exact hsame rfl rfl (sameAccounts_of_openSession h)
  | endSession value => exact hsame rfl rfl (sameAccounts_of_endSession (changed_eq_ok_iff.1 h))
  | purge _ | listAccounts _ =>
    cases h
    exact hsame rfl rfl (.refl _)
  | accountById _ | accountByEmail _ | liveSession _ =>
    exact hsame rfl rfl ((unchanged_eq_ok_iff.1 h).2 ▸ .refl s)

/-- A query that does not write leaves the accounts. -/
theorem sameAccounts_of_run {x : q.Answer} (hq : q.writes = false) (h : s.run now q = .ok (x, s')) :
    s.SameAccounts s' := by
  have hadds : q.added? now s = none := by
    cases q <;> first | rfl | cases hq
  have hrevise : q.revise now = id := funext fun a => Query.revise_of_not_writes hq
  obtain ⟨haccounts, hlast⟩ := accounts_eq_of_run h
  rw [hadds, hrevise, List.map_id, Option.toList_none, List.append_nil] at haccounts
  rw [hadds] at hlast
  exact ⟨haccounts, hlast.trans (Int.add_zero _)⟩

/-- An account after a query is one from before, revised, or a new one. -/
theorem mem_accounts_of_run {x : q.Answer} (h : s.run now q = .ok (x, s')) (ha : a ∈ s'.accounts) :
    (∃ b ∈ s.accounts, a = q.revise now b) ∨ q.added? now s = some a := by
  rw [(accounts_eq_of_run h).1] at ha
  rcases List.mem_append.1 ha with ha | ha
  · obtain ⟨b, hb, rfl⟩ := List.mem_map.1 ha
    exact .inl ⟨b, hb, rfl⟩
  · exact .inr (Option.mem_toList.1 ha)

/-- An account from before is there, revised. -/
theorem revise_mem_of_run {x : q.Answer} (h : s.run now q = .ok (x, s')) (ha : a ∈ s.accounts) :
    q.revise now a ∈ s'.accounts := by
  rw [(accounts_eq_of_run h).1]
  exact List.mem_append_left _ (List.mem_map_of_mem ha)

/-! ## Opening an account -/

/-- **An account is opened if its address is free**, with the next id. -/
theorem insertAccount_eq_ok_iff {new : NewAccount} {id : Int} :
    s.insertAccount now new = .ok (id, s') ↔
      (∀ a ∈ s.accounts, a.email ≠ new.email) ∧ id = s.lastAccountId + 1 ∧
        s' = { s with accounts := s.accounts ++ [s.opened now new], lastAccountId := id } := by
  constructor
  · intro h
    have hfree : ∀ a ∈ s.accounts, a.email ≠ new.email := by
      unfold insertAccount at h
      split at h
      · cases h
      · next hfree => simpa using hfree
    rw [insertAccount_eq_ok now hfree] at h
    obtain ⟨rfl, rfl⟩ := Prod.mk.inj (Except.ok.inj h)
    exact ⟨hfree, rfl, rfl⟩
  · rintro ⟨hfree, rfl, rfl⟩
    exact insertAccount_eq_ok now hfree

/-- It is not opened if the address is taken. -/
theorem insertAccount_eq_error_iff {new : NewAccount} {e : StoreError} :
    s.insertAccount now new = .error e ↔
      e = .emailTaken ∧ ∃ a ∈ s.accounts, a.email = new.email := by
  by_cases htaken : ∃ a ∈ s.accounts, a.email = new.email
  · have hany : (s.accounts.any fun a => a.email == new.email) = true := by simpa using htaken
    rw [insertAccount, if_pos hany]
    exact ⟨fun h => ⟨(Except.error.inj h).symm, htaken⟩, fun h => congrArg _ h.1.symm⟩
  · have hfree : ∀ a ∈ s.accounts, a.email ≠ new.email := by simpa using htaken
    rw [insertAccount_eq_ok now hfree]
    simp [htaken]

/-! ## Confirming an address -/

/-- An account is there, and its address is confirmed. -/
def Confirmed (s : Store) (u : Int) : Prop :=
  ∃ a ∈ s.accounts, a.id = u ∧ a.emailConfirmed = true

theorem Confirmed.mono {u : Int} (h : s.Confirmed u) (hremain : s.AccountsRemain s') :
    s'.Confirmed u := by
  obtain ⟨a, ha, rfl, hconfirmed⟩ := h
  obtain ⟨a', ha', hremains⟩ := hremain a ha
  exact ⟨a', ha', hremains.id, hremains.confirmed hconfirmed⟩

/-- Who is confirmed was confirmed before, or is by this query. -/
theorem Confirmed.of_run {u : Int} {x : q.Answer} (h : s.run now q = .ok (x, s'))
    (hu : s'.Confirmed u) : s.Confirmed u ∨ q = .confirmEmail u := by
  obtain ⟨a, ha, rfl, hconfirmed⟩ := hu
  rcases mem_accounts_of_run h ha with ⟨b, hb, rfl⟩ | hadded
  · rw [Query.revise_id]
    rcases Query.emailConfirmed_revise_iff.1 hconfirmed with hconfirmed | hq
    · exact .inl ⟨b, hb, rfl, hconfirmed⟩
    · exact .inr hq
  · -- a new account is not confirmed
    cases q with
    | insertAccount new =>
      obtain rfl := Option.some.inj hadded
      cases hconfirmed
    | _ => cases hadded

/-- **An address is confirmed once**, of an account that is there. -/
theorem AccountsInOrder.confirmed_of_confirmEmail {u : Int} (hs : s.AccountsInOrder)
    (h : s.confirmEmail now u = .ok s') : ¬ s.Confirmed u ∧ s'.Confirmed u := by
  unfold confirmEmail at h
  split at h
  · cases h
  · next a hfound =>
    obtain ⟨ha, rfl⟩ := hs.account?_eq_some_iff.1 hfound
    split at h
    · cases h
    · next hunconfirmed =>
      constructor
      · rintro ⟨b, hb, hid, hconfirmed⟩
        obtain rfl := hs.eq_of_id_eq hb ha hid
        exact hunconfirmed hconfirmed
      · obtain ⟨-, rfl⟩ := changeAccount_eq_ok_iff.1 h
        exact ⟨_, List.mem_map_of_mem ha, by rw [if_pos rfl], by rw [if_pos rfl]⟩

/-- Of an account that is there it fails only if that has been done. -/
theorem confirmEmail_eq_error {u : Int} {e : StoreError} (ha : ∃ a ∈ s.accounts, a.id = u)
    (h : s.confirmEmail now u = .error e) : e = .alreadyConfirmed u ∧ s.Confirmed u := by
  have hsome := isSome_account? ha
  unfold confirmEmail at h
  split at h
  · next hnone => simp [hnone] at hsome
  · next b hfound =>
    split at h
    · next hconfirmed =>
      have hid : b.id = u := by simpa using List.find?_some hfound
      exact ⟨(Except.error.inj h).symm, b, List.mem_of_find?_eq_some hfound, hid, hconfirmed⟩
    · rw [changeAccount, if_pos hsome] at h
      cases h

/-! ## What stays as it was inserted -/

/-- **No account is lost, and none changes its place**: the list of ids,
addresses and dates of opening only grows at its end. -/
theorem origins_prefix_of_run {x : q.Answer} (h : s.run now q = .ok (x, s')) :
    s.accounts.map Account.origin <+: s'.accounts.map Account.origin := by
  have hsame : Account.origin ∘ q.revise now = Account.origin :=
    funext fun a => by simp [Account.origin]
  rw [(accounts_eq_of_run h).1, List.map_append, List.map_map, hsame]
  exact List.prefix_append _ _

/-- No account was opened after it was changed last, and none was changed
after a time. -/
def Dated (s : Store) (now : Int) : Prop :=
  ∀ a ∈ s.accounts, a.createdAt ≤ a.updatedAt ∧ a.updatedAt ≤ now

theorem Dated.mono {now' : Int} (h : s.Dated now) (hle : now ≤ now') : s.Dated now' :=
  fun a ha => ⟨(h a ha).1, Int.le_trans (h a ha).2 hle⟩

/-- **A query keeps the dates in order**, at that time. -/
theorem Dated.run (hs : s.Dated now) {x : q.Answer} (h : s.run now q = .ok (x, s')) :
    s'.Dated now := by
  intro a ha
  rcases mem_accounts_of_run h ha with ⟨b, hb, rfl⟩ | hadded
  · obtain ⟨hcreated, hupdated⟩ := hs b hb
    rw [Query.revise_createdAt]
    rcases q.updatedAt_revise now b with heq | heq
    · rw [heq]
      exact ⟨hcreated, hupdated⟩
    · rw [heq]
      exact ⟨Int.le_trans hcreated hupdated, Int.le_refl now⟩
  · cases q with
    | insertAccount new =>
      obtain rfl := Option.some.inj hadded
      exact ⟨Int.le_refl now, Int.le_refl now⟩
    | _ => cases hadded

end Store

end SignOn
