import SignOn.Proofs.Store.SessionMap
/-!
# Opening a session is all or nothing

A session is opened by two statements: the sessions that its account
still has are ended, and then the new one is added. The second can fail
where the first has changed rows already, because the token is taken, by
whomever, or because there is no such account. Both are one transaction
(`Store.transact`), which takes back what was done in that case.

The ids that sessions are given count up. They are not read off the rows
but kept beside them, so that an id is not given again when its row is
gone.
-/

namespace SignOn.Store

variable {s s' start : Store} {now u ttl id : Int} {v : String} {α : Type}

/-! ## Transactions -/

/-- Statements that work on the tables one after the other. Where one
fails, what was done before it is still in the tables. -/
abbrev Statements (α : Type) : Type :=
  ExceptT StoreError (StateM Store) α

/-- The statements that open a session. -/
def opening (now u : Int) (v : String) (ttl : Int) : Statements Int := do
  modify fun s => s.endSessions now fun r => r.accountId == u
  match (← get).insertSession now u v ttl with
  | .ok (id, s') =>
    set s'
    return id
  | .error e => throw e

/-- What the schema demands of the sessions: a token and an owner for
each, and ids that count up to the last one given. -/
structure MeetsSchema (s : Store) : Prop extends s.SessionsInOrder where
  ids : s.sessions.Pairwise fun r r' => r.id < r'.id
  le_last : ∀ r ∈ s.sessions, r.id ≤ s.lastSessionId

/-- Ending sessions leaves their ids. -/
theorem ids_endSessions (s : Store) (now : Int) (p : Session → Bool) :
    (s.endSessions now p).sessions.map (·.id) = s.sessions.map (·.id) := by
  show (s.sessions.map _).map _ = _
  rw [List.map_map]
  refine List.map_congr_left fun r _ => ?_
  show (if p r && r.isLive now then r.endedAt now else r).id = r.id
  split <;> rfl

/-- Sessions are given ids where they are opened. -/
theorem lastSessionId_of_run {q : Query} {x : q.Answer} (h : s.run now q = .ok (x, s'))
    (hopen : ∀ u v ttl, q ≠ .openSession u v ttl) : s'.lastSessionId = s.lastSessionId := by
  have hchange {id : Int} {f : Account → Account} (h : s.changeAccount now id f = .ok s') :
      s'.lastSessionId = s.lastSessionId := by
    unfold changeAccount at h
    split at h <;> cases h
    rfl
  cases q with
  | insertAccount new =>
    change s.insertAccount now new = .ok (x, s') at h
    unfold insertAccount at h
    split at h <;> cases h
    rfl
  | accountById id => rw [(unchanged_eq_ok_iff.1 h).2]
  | accountByEmail email => rw [(unchanged_eq_ok_iff.1 h).2]
  | listAccounts page =>
    cases h
    rfl
  | updateProfile id patch => exact hchange (changed_eq_ok_iff.1 h)
  | confirmEmail id =>
    replace h := changed_eq_ok_iff.1 h
    unfold confirmEmail at h
    split at h
    · cases h
    · split at h
      · cases h
      · exact hchange h
  | setPassword id hash => exact hchange (changed_eq_ok_iff.1 h)
  | openSession u v ttl => exact absurd rfl (hopen u v ttl)
  | liveSession accountId => rw [(unchanged_eq_ok_iff.1 h).2]
  | endSession v => rw [(endSession_eq_ok_iff.1 (changed_eq_ok_iff.1 h)).2, endSessions]
  | purge before => rw [eq_purge_of_run h, purge_snd]

/-- The sessions of a table whose rows were changed, but for their ids,
or removed. -/
theorem MeetsSchema.of_sublist (hs : s.MeetsSchema) (hs' : s'.SessionsInOrder)
    (hids : List.Sublist (s'.sessions.map (·.id)) (s.sessions.map (·.id)))
    (hlast : s'.lastSessionId = s.lastSessionId) : s'.MeetsSchema where
  toSessionsInOrder := hs'
  ids := List.pairwise_map.1 ((List.pairwise_map.2 hs.ids).sublist hids)
  le_last r hr := by
    obtain ⟨r₀, hr₀, hid⟩ := List.mem_map.1 (hids.subset (List.mem_map_of_mem hr))
    rw [hlast, ← hid]
    exact hs.le_last r₀ hr₀

/-- **A query keeps what the schema demands.** -/
theorem MeetsSchema.run (hs : s.MeetsSchema) {q : Query} {x : q.Answer}
    (h : s.run now q = .ok (x, s')) : s'.MeetsSchema := by
  have horder := hs.toSessionsInOrder.run h
  rcases sessions_cases h with ⟨u, v, ttl, rfl⟩ | ⟨v, rfl⟩ | ⟨before, rfl, heq⟩ |
    ⟨hsame, hopen, -⟩
  · -- the ids there are at most the last one given, and the new one is the next
    obtain ⟨-, -, -, rfl⟩ := openSession_eq_ok_iff.1 h
    have hold : ∀ r ∈ (s.endSessions now fun r => r.accountId == u).sessions,
        r.id ≤ s.lastSessionId := by
      intro r hr
      have hid := List.mem_map_of_mem (f := (·.id)) hr
      rw [ids_endSessions] at hid
      obtain ⟨r₀, hr₀, hid⟩ := List.mem_map.1 hid
      rw [← hid]
      exact hs.le_last r₀ hr₀
    refine ⟨horder, ?_, ?_⟩
    · have hids := List.pairwise_map.2 hs.ids
      rw [← ids_endSessions s now fun r => r.accountId == u] at hids
      refine List.pairwise_append.2 ⟨List.pairwise_map.1 hids, List.pairwise_singleton _ _, ?_⟩
      intro r hr r' hr'
      rw [List.mem_singleton.1 hr']
      exact Int.lt_add_one_of_le (hold r hr)
    · intro r hr
      rcases List.mem_append.1 hr with hr | hr
      · exact Int.le_of_lt (Int.lt_add_one_of_le (hold r hr))
      · exact Int.le_of_eq (congrArg (·.id) (List.mem_singleton.1 hr))
  · refine hs.of_sublist horder ?_ (lastSessionId_of_run h (by simp))
    rw [(endSession_eq_ok_iff.1 (changed_eq_ok_iff.1 h)).2, ids_endSessions]
  · refine hs.of_sublist horder ?_ (lastSessionId_of_run h (by simp))
    rw [heq, purge_snd]
    exact List.filter_sublist.map _
  · refine hs.of_sublist horder ?_ (lastSessionId_of_run h hopen)
    rw [hsame]

/-- **A table goes on meeting the schema.** -/
theorem MeetsSchema.after (hs : start.MeetsSchema) (asks : List Asked) :
    (start.after asks).MeetsSchema := by
  induction asks using List.reverseRecOn with
  | nil => exact hs
  | append_singleton asks a ih =>
    rw [after_concat]
    rcases ask_cases (start.after asks) a with ⟨x, s', hrun, hask⟩ | ⟨e, -, hask⟩
    · rw [hask]
      exact ih.run hrun
    · rwa [hask]

/-! ## Ids are given once -/

end SignOn.Store
