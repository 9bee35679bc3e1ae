import SignOn.Proofs.Store.Revisions
/-!
# Stores without password hashes

A query never reads the password hash of an account to decide anything:
it hands hashes out with the accounts, and it writes them. So what it
answers and what it leaves, seen without password hashes, is determined by
the store without password hashes, `Store.seen_run`.
-/

namespace SignOn

/-- The account without its password hash. -/
def Account.unhashed (a : Account) : Account :=
  { a with passwordHash := "" }

/-- The store without password hashes. -/
def Store.unhashed (s : Store) : Store :=
  { s with accounts := s.accounts.map Account.unhashed }

namespace Query

/-- An answer, its accounts seen in some way. -/
def see (view : Account → Account) : (q : Query) → q.Answer → q.Answer
  | .accountById _, a => view a
  | .accountByEmail _, a => view a
  | .listAccounts _, as => as.map view
  | _, x => x

/-- Answers may be seen as they are. -/
theorem see_id (q : Query) (x : q.Answer) : q.see id x = x := by
  cases q with
  | listAccounts page => exact List.map_id x
  | _ => rfl

/-- What comes of a query, seen without password hashes. -/
def seen (q : Query) (r : Except StoreError (q.Answer × Store)) :
    Except StoreError (q.Answer × Store) :=
  r.map fun p => (q.see Account.unhashed p.1, p.2.unhashed)

end Query

@[simp] theorem Account.unhashed_unhashed (a : Account) : a.unhashed.unhashed = a.unhashed := rfl

namespace Store

variable (s : Store) (now : Int)

@[simp] theorem unhashed_unhashed : s.unhashed.unhashed = s.unhashed := by
  simp [unhashed, Function.comp_def]

theorem account?_unhashed (id : Int) :
    s.unhashed.account? id = (s.account? id).map Account.unhashed :=
  List.find?_map

theorem accountWithEmail?_unhashed (email : String) :
    s.unhashed.accountWithEmail? email = (s.accountWithEmail? email).map Account.unhashed :=
  List.find?_map

/-- Looking something up leaves the store. -/
theorem seen_unchanged {q : Query} {x x' : Except StoreError q.Answer}
    (h : x.map (q.see Account.unhashed) = x'.map (q.see Account.unhashed)) :
    q.seen (s.unhashed.unchanged x) = q.seen (s.unchanged x') := by
  cases x with
  | ok a =>
    cases x' with
    | ok a' =>
      refine congrArg Except.ok (Prod.ext (Except.ok.inj h) ?_)
      exact s.unhashed_unhashed
    | error e' => cases h
  | error e =>
    cases x' with
    | ok a' => cases h
    | error e' => exact congrArg Except.error (Except.error.inj h)

/-- A change is seen in the store that it leaves. -/
theorem seen_changed {x x' : Except StoreError Store}
    (h : x.map unhashed = x'.map unhashed) :
    (changed x).map (fun p => (p.1, p.2.unhashed)) = (changed x').map fun p => (p.1, p.2.unhashed) := by
  cases x with
  | ok t =>
    cases x' with
    | ok t' => exact congrArg (fun t => Except.ok ((), t)) (Except.ok.inj h)
    | error e' => cases h
  | error e =>
    cases x' with
    | ok t' => cases h
    | error e' => exact congrArg Except.error (Except.error.inj h)

/-- An account is found or missing, with its hash or without. -/
theorem seen_accountById (id : Int) :
    (s.unhashed.accountById id).map Account.unhashed = (s.accountById id).map Account.unhashed := by
  unfold accountById
  rw [account?_unhashed]
  cases s.account? id <;> rfl

theorem seen_accountByEmail (email : String) :
    (s.unhashed.accountByEmail email).map Account.unhashed =
      (s.accountByEmail email).map Account.unhashed := by
  unfold accountByEmail
  rw [accountWithEmail?_unhashed]
  cases s.accountWithEmail? email <;> rfl

theorem seen_listAccounts (page : Option Page) :
    (s.unhashed.listAccounts page).map Account.unhashed =
      (s.listAccounts page).map Account.unhashed := by
  cases page with
  | none => simp [listAccounts, unhashed, Function.comp_def]
  | some page => simp [listAccounts, Page.cut, unhashed, ← List.map_drop, ← List.map_take,
      Function.comp_def]

/-- A change of an account does not depend on its hash. -/
theorem seen_changeAccount (id : Int) {f : Account → Account}
    (hf : ∀ a : Account, (f a.unhashed).unhashed = (f a).unhashed) :
    (s.unhashed.changeAccount now id f).map unhashed = (s.changeAccount now id f).map unhashed := by
  have hdated (a : Account) : ({ f a.unhashed with updatedAt := now } : Account).unhashed =
      ({ f a with updatedAt := now } : Account).unhashed :=
    congrArg (fun b : Account => { b with updatedAt := now }) (hf a)
  unfold changeAccount
  rw [account?_unhashed, Option.isSome_map]
  by_cases hfound : (s.account? id).isSome = true
  · rw [if_pos hfound, if_pos hfound]
    refine congrArg (fun accounts => Except.ok { s with accounts := accounts }) ?_
    show ((s.accounts.map Account.unhashed).map _).map _ = (s.accounts.map _).map _
    rw [List.map_map, List.map_map, List.map_map]
    refine List.map_congr_left fun a _ => ?_
    by_cases hid : a.id = id
    · have hid' : a.unhashed.id = id := hid
      simp only [Function.comp_apply, if_pos hid, if_pos hid']
      exact hdated a
    · have hid' : ¬ a.unhashed.id = id := hid
      simp only [Function.comp_apply, if_neg hid, if_neg hid', Account.unhashed_unhashed]
  · rw [if_neg hfound, if_neg hfound]

theorem seen_confirmEmail (id : Int) :
    (s.unhashed.confirmEmail now id).map unhashed = (s.confirmEmail now id).map unhashed := by
  unfold confirmEmail
  rw [account?_unhashed]
  cases s.account? id with
  | none => rfl
  | some a =>
    cases hconfirmed : a.emailConfirmed with
    | true => simp [Account.unhashed, hconfirmed, Except.map]
    | false =>
      have hchange := s.seen_changeAccount now id (f := fun a => { a with emailConfirmed := true })
        fun _ => rfl
      simpa [Account.unhashed, hconfirmed] using hchange

/-- A new account is like the others. -/
theorem seen_insertAccount (new : NewAccount) :
    (Query.insertAccount new).seen (s.unhashed.insertAccount now new) =
      (Query.insertAccount new).seen (s.insertAccount now new) := by
  have hany : s.unhashed.accounts.any (fun a => a.email == new.email) =
      s.accounts.any fun a => a.email == new.email := List.any_map
  unfold insertAccount
  rw [hany]
  by_cases htaken : (s.accounts.any fun a => a.email == new.email) = true
  · rw [if_pos htaken, if_pos htaken]
  · rw [if_neg htaken, if_neg htaken]
    simp [Query.seen, Query.see, Except.map, unhashed, Function.comp_def]

/-- The owner of a session has to be there, and that is all. -/
theorem seen_insertSession (u : Int) (value : String) (ttl : Int) :
    (Query.openSession u value ttl).seen (s.unhashed.insertSession now u value ttl) =
      (Query.openSession u value ttl).seen (s.insertSession now u value ttl) := by
  have hsessions : s.unhashed.sessions = s.sessions := rfl
  unfold insertSession
  rw [hsessions, account?_unhashed, Option.isNone_map]
  by_cases htaken : (s.sessions.any fun r => r.value == value) = true
  · rw [if_pos htaken, if_pos htaken]
  · rw [if_neg htaken, if_neg htaken]
    by_cases hmissing : (s.account? u).isNone = true
    · rw [if_pos hmissing, if_pos hmissing]
    · rw [if_neg hmissing, if_neg hmissing]
      simp [Query.seen, Query.see, Except.map, unhashed, Function.comp_def]

theorem seen_endSession (value : String) :
    (s.unhashed.endSession now value).map unhashed = (s.endSession now value).map unhashed := by
  have hsessions : s.unhashed.sessions = s.sessions := rfl
  unfold endSession
  rw [hsessions]
  by_cases hlive : (s.sessions.any fun r => r.value == value && r.isLive now) = true
  · rw [if_pos hlive, if_pos hlive]
    simp [Except.map, unhashed, endSessions, Function.comp_def]
  · rw [if_neg hlive, if_neg hlive]

theorem seen_purge (before : Int) :
    ((s.unhashed.purge before).1, (s.unhashed.purge before).2.unhashed) =
      ((s.purge before).1, (s.purge before).2.unhashed) := by
  simp [purge, unhashed, Function.comp_def]

/-- **A query sees no password hashes.** -/
theorem seen_run (q : Query) : q.seen (s.unhashed.run now q) = q.seen (s.run now q) := by
  cases q with
  | insertAccount new => exact s.seen_insertAccount now new
  | accountById id => exact s.seen_unchanged (s.seen_accountById id)
  | accountByEmail email => exact s.seen_unchanged (s.seen_accountByEmail email)
  | listAccounts page =>
    have hsee : Except.map ((Query.listAccounts page).see Account.unhashed)
          (.ok (s.unhashed.listAccounts page) : Except StoreError _) =
        Except.map ((Query.listAccounts page).see Account.unhashed) (.ok (s.listAccounts page)) :=
      congrArg Except.ok (s.seen_listAccounts page)
    exact s.seen_unchanged hsee
  | updateProfile id patch => exact seen_changed (s.seen_changeAccount now id fun _ => rfl)
  | confirmEmail id => exact seen_changed (s.seen_confirmEmail now id)
  | setPassword id hash => exact seen_changed (s.seen_changeAccount now id fun _ => rfl)
  | openSession u value ttl => exact (s.endSessions now fun r => r.accountId == u).seen_insertSession now u value ttl
  | liveSession u => exact s.seen_unchanged rfl
  | endSession value => exact seen_changed (s.seen_endSession now value)
  | purge before => exact congrArg Except.ok (s.seen_purge before)

end Store

end SignOn
