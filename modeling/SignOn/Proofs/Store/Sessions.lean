import SignOn.Proofs.Store.Accounts
/-!
# Sessions, query by query

What each query does to the sessions. A session is only ever opened,
ended and removed: its account and its token stay, and its end is moved
once at most, to the past. From this follow the two facts that the rest
relies on: no two sessions have one token (`Store.SessionsInOrder`), and
an account has at most one live session (`Store.OneLive`).
-/

namespace SignOn

theorem Session.isLive_iff {r : Session} {now : Int} : r.isLive now = true ↔ now < r.ttl :=
  decide_eq_true_iff

/-- Whether a query ends a session that is live. -/
def Query.Ends : Query → Session → Prop
  | .openSession accountId _ _, r => r.accountId = accountId
  | .endSession value, r => r.value = value
  | _, _ => False

namespace Store

variable {s s' : Store} {now now' ttl ttl' u u' id : Int} {v v' : String} {r r' : Session}

/-! ## Ending sessions -/

/-- A session of a store in which some were ended. -/
theorem mem_endSessions {p : Session → Bool} :
    r' ∈ (s.endSessions now p).sessions ↔
      (r' ∈ s.sessions ∧ ¬ (p r' = true ∧ now < r'.ttl)) ∨
        ∃ r ∈ s.sessions, p r = true ∧ now < r.ttl ∧ r' = r.endedAt now := by
  have hmem : r' ∈ (s.endSessions now p).sessions ↔
      ∃ r ∈ s.sessions, (if p r && r.isLive now then r.endedAt now else r) = r' :=
    List.mem_map
  rw [hmem]
  constructor
  · rintro ⟨r, hr, rfl⟩
    split
    · next h =>
      rw [Bool.and_eq_true, Session.isLive_iff] at h
      exact .inr ⟨r, hr, h.1, h.2, rfl⟩
    · next h =>
      rw [Bool.and_eq_true, Session.isLive_iff] at h
      exact .inl ⟨hr, h⟩
  · rintro (⟨hr, h⟩ | ⟨r, hr, hp, hlive, rfl⟩)
    · exact ⟨r', hr, if_neg (by rwa [Bool.and_eq_true, Session.isLive_iff])⟩
    · exact ⟨r, hr, if_pos (by rw [Bool.and_eq_true, Session.isLive_iff]; exact ⟨hp, hlive⟩)⟩

/-- Ending sessions leaves their tokens. -/
theorem values_endSessions (s : Store) (now : Int) (p : Session → Bool) :
    (s.endSessions now p).sessions.map (·.value) = s.sessions.map (·.value) := by
  show (s.sessions.map _).map _ = _
  rw [List.map_map]
  refine List.map_congr_left fun r _ => ?_
  show (if p r && r.isLive now then r.endedAt now else r).value = r.value
  split <;> rfl

/-! ## What a query does to sessions -/

/-- Opening a session succeeds for a new token and an account that is
there. -/
theorem openSession_eq_ok_iff :
    s.openSession now u v ttl = .ok (id, s') ↔
      (∀ r ∈ s.sessions, r.value ≠ v) ∧ (∃ a ∈ s.accounts, a.id = u) ∧
        id = s.lastSessionId + 1 ∧
        s' = { s with
          sessions := (s.endSessions now fun r => r.accountId == u).sessions ++
            [⟨s.lastSessionId + 1, u, v, ttl, now, now⟩]
          lastSessionId := s.lastSessionId + 1 } := by
  -- the sessions of the account end first, and keep their tokens while they do
  have htaken : ((s.endSessions now fun r => r.accountId == u).sessions.any
      fun r => r.value == v) = true ↔ v ∈ s.sessions.map (·.value) := by
    rw [← values_endSessions s now fun r => r.accountId == u]
    simp
  have hnew : v ∉ s.sessions.map (·.value) ↔ ∀ r ∈ s.sessions, r.value ≠ v := by
    simp
  have howner : (s.account? u).isNone = true ↔ ¬ ∃ a ∈ s.accounts, a.id = u := by
    rw [account?_isNone_iff]
    simp
  rw [← hnew]
  unfold openSession insertSession
  split
  · next h =>
    rw [htaken] at h
    simp [h]
  · next h =>
    rw [htaken] at h
    change (if (s.account? u).isNone then Except.error StoreError.noOwner else _) = _ ↔ _
    split
    · next hnone =>
      rw [howner] at hnone
      simp [hnone]
    · next hsome =>
      rw [howner, not_not] at hsome
      simp only [Except.ok.injEq, Prod.mk.injEq, h, hsome, not_false_eq_true, true_and]
      exact and_congr eq_comm eq_comm

/-- Ending a session succeeds exactly if a live one has the token. -/
theorem endSession_eq_ok_iff :
    s.endSession now v = .ok s' ↔
      (∃ r ∈ s.sessions, r.value = v ∧ now < r.ttl) ∧
        s' = s.endSessions now fun r => r.value == v := by
  have hany : (s.sessions.any fun r => r.value == v && r.isLive now) = true ↔
      ∃ r ∈ s.sessions, r.value = v ∧ now < r.ttl := by
    simp [Session.isLive_iff]
  unfold endSession
  split
  · next h =>
    rw [hany] at h
    simp only [Except.ok.injEq, h, true_and]
    exact eq_comm
  · next h =>
    rw [hany] at h
    simp [h]

/-- How many sessions a purge removes. -/
theorem purge_fst (s : Store) (before : Int) :
    (s.purge before).1 = s.sessions.countP fun r => r.ttl ≤ before := by
  show (s.sessions.partition fun r : Session => decide (r.ttl ≤ before)).1.length = _
  rw [List.partition_eq_filter_filter, List.countP_eq_length_filter]

/-- What a purge leaves. -/
theorem purge_snd (s : Store) (before : Int) :
    (s.purge before).2 = { s with sessions := s.sessions.filter fun r => before < r.ttl } := by
  show { s with
    sessions := (s.sessions.partition fun r : Session => decide (r.ttl ≤ before)).2 } = _
  rw [List.partition_eq_filter_filter]
  congr 1
  refine List.filter_congr fun r _ => ?_
  show (!decide (r.ttl ≤ before)) = decide (before < r.ttl)
  rw [← decide_not]
  exact decide_eq_decide.2 Int.not_le

theorem eq_purge_of_run {before : Int} {n : Nat} (h : s.run now (.purge before) = .ok (n, s')) :
    s' = (s.purge before).2 :=
  (congrArg Prod.snd (Except.ok.inj h)).symm

theorem mem_purge {before : Int} :
    r ∈ (s.purge before).2.sessions ↔ r ∈ s.sessions ∧ before < r.ttl := by
  simp [purge_snd]

/-- A query that is not about sessions leaves them. -/
theorem sessions_of_run {q : Query} {x : q.Answer} (h : s.run now q = .ok (x, s'))
    (hopen : ∀ u v ttl, q ≠ .openSession u v ttl) (hend : ∀ v, q ≠ .endSession v)
    (hpurge : ∀ before, q ≠ .purge before) : s'.sessions = s.sessions := by
  have hsame : s' = s → s'.sessions = s.sessions := by
    rintro rfl
    rfl
  have hchange {id : Int} {f : Account → Account} (h : s.changeAccount now id f = .ok s') :
      s'.sessions = s.sessions := by
    unfold changeAccount at h
    split at h <;> cases h
    rfl
  cases q with
  | insertAccount new =>
    change s.insertAccount now new = .ok (x, s') at h
    unfold insertAccount at h
    split at h <;> cases h
    rfl
  | accountById id => exact hsame (unchanged_eq_ok_iff.1 h).2
  | accountByEmail email => exact hsame (unchanged_eq_ok_iff.1 h).2
  | listAccounts page =>
    cases h
    rfl
  | updateProfile id patch => exact hchange (changed_eq_ok_iff.1 h)
  | confirmEmail id =>
    replace h := changed_eq_ok_iff.1 h
    unfold confirmEmail at h
    split at h
    · cases h
    · split at h
      · cases h
      · exact hchange h
  | setPassword id hash => exact hchange (changed_eq_ok_iff.1 h)
  | openSession u v ttl => exact absurd rfl (hopen u v ttl)
  | liveSession accountId => exact hsame (unchanged_eq_ok_iff.1 h).2
  | endSession v => exact absurd rfl (hend v)
  | purge before => exact absurd rfl (hpurge before)

/-- **What a query is to sessions**: it opens one, ends one, purges them or
leaves them. -/
theorem sessions_cases {q : Query} {x : q.Answer} (h : s.run now q = .ok (x, s')) :
    (∃ u v ttl, q = .openSession u v ttl) ∨ (∃ v, q = .endSession v) ∨
      (∃ before, q = .purge before ∧ s' = (s.purge before).2) ∨
        s'.sessions = s.sessions ∧ (∀ u v ttl, q ≠ .openSession u v ttl) ∧
          ∀ v, q ≠ .endSession v := by
  by_cases hopen : ∃ u v ttl, q = .openSession u v ttl
  · exact .inl hopen
  by_cases hend : ∃ v, q = .endSession v
  · exact .inr (.inl hend)
  by_cases hpurge : ∃ before, q = .purge before
  · obtain ⟨before, rfl⟩ := hpurge
    exact .inr (.inr (.inl ⟨before, rfl, eq_purge_of_run h⟩))
  · have hopens u v ttl (hq : q = .openSession u v ttl) : False := hopen ⟨u, v, ttl, hq⟩
    have hends v (hq : q = .endSession v) : False := hend ⟨v, hq⟩
    have hsame := sessions_of_run h hopens hends fun before hq => hpurge ⟨before, hq⟩
    exact .inr (.inr (.inr ⟨hsame, hopens, hends⟩))

/-- **Where a session comes from.** It was there, or it was live and is
ended by the query, or the query opens it. -/
theorem mem_sessions_of_run {q : Query} {x : q.Answer} (h : s.run now q = .ok (x, s'))
    (hr : r' ∈ s'.sessions) :
    r' ∈ s.sessions ∨
      (∃ r ∈ s.sessions, q.Ends r ∧ now < r.ttl ∧ r' = r.endedAt now) ∨
        q = .openSession r'.accountId r'.value r'.ttl := by
  rcases sessions_cases h with ⟨u, v, ttl, rfl⟩ | ⟨v, rfl⟩ | ⟨before, rfl, rfl⟩ | ⟨hsame, -⟩
  · obtain ⟨-, -, -, rfl⟩ := openSession_eq_ok_iff.1 h
    rcases List.mem_append.1 hr with hr | hr
    · rcases mem_endSessions.1 hr with ⟨hr, -⟩ | ⟨r, hold, hp, hlive, rfl⟩
      · exact .inl hr
      · exact .inr (.inl ⟨r, hold, beq_iff_eq.1 hp, hlive, rfl⟩)
    · rw [List.mem_singleton.1 hr]
      exact .inr (.inr rfl)
  · obtain ⟨-, rfl⟩ := endSession_eq_ok_iff.1 (changed_eq_ok_iff.1 h)
    rcases mem_endSessions.1 hr with ⟨hr, -⟩ | ⟨r, hold, hp, hlive, rfl⟩
    · exact .inl hr
    · exact .inr (.inl ⟨r, hold, beq_iff_eq.1 hp, hlive, rfl⟩)
  · exact .inl (mem_purge.1 hr).1
  · rw [hsame] at hr
    exact .inl hr

/-- **Where a session goes.** It stays, or it was live and the query ends
it, or a purge removes it. -/
theorem mem_sessions_of_mem {q : Query} {x : q.Answer} (h : s.run now q = .ok (x, s'))
    (hr : r ∈ s.sessions) :
    r ∈ s'.sessions ∨ (q.Ends r ∧ now < r.ttl) ∨ ∃ before, q = .purge before ∧ r.ttl ≤ before := by
  rcases sessions_cases h with ⟨u, v, ttl, rfl⟩ | ⟨v, rfl⟩ | ⟨before, rfl, rfl⟩ | ⟨hsame, -⟩
  · obtain ⟨-, -, -, rfl⟩ := openSession_eq_ok_iff.1 h
    by_cases hends : r.accountId = u ∧ now < r.ttl
    · exact .inr (.inl hends)
    · refine .inl (List.mem_append_left _ (mem_endSessions.2 (.inl ⟨hr, ?_⟩)))
      rwa [beq_iff_eq]
  · obtain ⟨-, rfl⟩ := endSession_eq_ok_iff.1 (changed_eq_ok_iff.1 h)
    by_cases hends : r.value = v ∧ now < r.ttl
    · exact .inr (.inl hends)
    · refine .inl (mem_endSessions.2 (.inl ⟨hr, ?_⟩))
      rwa [beq_iff_eq]
  · by_cases hle : r.ttl ≤ before
    · exact .inr (.inr ⟨before, rfl, hle⟩)
    · exact .inl (mem_purge.2 ⟨hr, by omega⟩)
  · rw [← hsame] at hr
    exact .inl hr

/-! ## No token twice, and an owner for each -/

/-- Every session has a token and an account of its own. -/
structure SessionsInOrder (s : Store) : Prop where
  values : (s.sessions.map (·.value)).Nodup
  owners : ∀ r ∈ s.sessions, ∃ a ∈ s.accounts, a.id = r.accountId

theorem SessionsInOrder.eq_of_value_eq (h : s.SessionsInOrder) (hr : r ∈ s.sessions)
    (hr' : r' ∈ s.sessions) (hv : r.value = r'.value) : r = r' :=
  List.inj_on_of_nodup_map h.values hr hr' hv

theorem sessionsInOrder_of_nil (h : s.sessions = []) : s.SessionsInOrder :=
  ⟨by simp [h], by simp [h]⟩

/-- **A query keeps the sessions in order.** -/
theorem SessionsInOrder.run (hs : s.SessionsInOrder) {q : Query} {x : q.Answer}
    (h : s.run now q = .ok (x, s')) : s'.SessionsInOrder := by
  have hremain {u : Int} (hu : ∃ a ∈ s.accounts, a.id = u) : ∃ a ∈ s'.accounts, a.id = u := by
    obtain ⟨a, ha, rfl⟩ := hu
    obtain ⟨a', ha', hremains⟩ := accountsRemain_of_run h a ha
    exact ⟨a', ha', hremains.id⟩
  refine ⟨?_, fun r hr => ?_⟩
  · rcases sessions_cases h with ⟨u, v, ttl, rfl⟩ | ⟨v, rfl⟩ | ⟨before, rfl, rfl⟩ | ⟨hsame, -⟩
    · -- the new token is none of those there, and the rows ended keep theirs
      obtain ⟨hnew, -, -, rfl⟩ := openSession_eq_ok_iff.1 h
      rw [List.map_append, values_endSessions, List.nodup_append]
      refine ⟨hs.values, List.nodup_singleton _, fun w hw w' hw' => ?_⟩
      obtain ⟨r, hr, rfl⟩ := List.mem_map.1 hw
      rw [List.mem_singleton.1 hw']
      exact hnew r hr
    · obtain ⟨-, rfl⟩ := endSession_eq_ok_iff.1 (changed_eq_ok_iff.1 h)
      rw [values_endSessions]
      exact hs.values
    · rw [purge_snd]
      exact hs.values.sublist (List.filter_sublist.map _)
    · rw [hsame]
      exact hs.values
  · rcases mem_sessions_of_run h hr with hr | ⟨r, hold, -, -, rfl⟩ | rfl
    · exact hremain (hs.owners r hr)
    · exact hremain (hs.owners r hold)
    · exact hremain (openSession_eq_ok_iff.1 h).2.1

/-! ## What a store holds -/

/-- There is a session of an account, with a token and an end. -/
def Holds (s : Store) (u : Int) (v : String) (ttl : Int) : Prop :=
  ∃ r ∈ s.sessions, r.accountId = u ∧ r.value = v ∧ r.ttl = ttl

/-- What is still held beyond the moment at which sessions are ended. -/
theorem holds_endSessions {p : Session → Bool} (hlt : now < ttl) :
    (s.endSessions now p).Holds u v ttl ↔
      ∃ r ∈ s.sessions, p r = false ∧ r.accountId = u ∧ r.value = v ∧ r.ttl = ttl := by
  constructor
  · rintro ⟨r', hr', hu, hv, rfl⟩
    rcases mem_endSessions.1 hr' with ⟨hr, hp⟩ | ⟨r, -, -, -, rfl⟩
    · exact ⟨r', hr, by simpa [hlt] using hp, hu, hv, rfl⟩
    · have hend : (r.endedAt now).ttl = now - 1 := rfl
      omega
  · rintro ⟨r, hr, hp, hu, hv, httl⟩
    exact ⟨r, mem_endSessions.2 (.inl ⟨hr, by simp [hp]⟩), hu, hv, httl⟩

/-- **What is held after a session was opened**: of its account this
session alone, of other accounts what was held before. -/
theorem holds_openSession (h : s.openSession now u v ttl = .ok (id, s')) (hlt : now < ttl') :
    s'.Holds u' v' ttl' ↔ if u' = u then v' = v ∧ ttl' = ttl else s.Holds u' v' ttl' := by
  obtain ⟨-, -, -, rfl⟩ := openSession_eq_ok_iff.1 h
  have hsplit : Holds { s with
      sessions := (s.endSessions now fun r => r.accountId == u).sessions ++
        [⟨s.lastSessionId + 1, u, v, ttl, now, now⟩]
      lastSessionId := s.lastSessionId + 1 } u' v' ttl' ↔
        (s.endSessions now fun r => r.accountId == u).Holds u' v' ttl' ∨
          (u = u' ∧ v = v' ∧ ttl = ttl') := by
    simp only [Holds, List.mem_append, List.mem_singleton, or_and_right, exists_or, exists_eq_left]
  rw [hsplit, holds_endSessions hlt]
  split
  · next hu =>
    subst hu
    constructor
    · rintro (⟨r, -, hp, hr, -⟩ | ⟨-, rfl, rfl⟩)
      · simp [hr] at hp
      · exact ⟨rfl, rfl⟩
    · rintro ⟨rfl, rfl⟩
      exact .inr ⟨rfl, rfl, rfl⟩
  · next hu =>
    constructor
    · rintro (⟨r, hr, -, hrest⟩ | ⟨rfl, -⟩)
      · exact ⟨r, hr, hrest⟩
      · exact absurd rfl hu
    · rintro ⟨r, hr, rfl, hrest⟩
      exact .inl ⟨r, hr, by simpa using hu, rfl, hrest⟩

/-- **What is held after a session was ended**: everything that has
another token. -/
theorem holds_endSession (h : s.endSession now v = .ok s') (hlt : now < ttl') :
    s'.Holds u' v' ttl' ↔ v' ≠ v ∧ s.Holds u' v' ttl' := by
  obtain ⟨-, rfl⟩ := endSession_eq_ok_iff.1 h
  rw [holds_endSessions hlt]
  constructor
  · rintro ⟨r, hr, hp, hu, rfl, httl⟩
    exact ⟨by simpa using hp, r, hr, hu, rfl, httl⟩
  · rintro ⟨hv, r, hr, hu, rfl, httl⟩
    exact ⟨r, hr, by simpa using hv, hu, rfl, httl⟩

/-- A purge takes away nothing that ends later. -/
theorem holds_purge {before : Int} (hlt : before < ttl) :
    (s.purge before).2.Holds u v ttl ↔ s.Holds u v ttl := by
  constructor
  · rintro ⟨r, hr, hrest⟩
    exact ⟨r, (mem_purge.1 hr).1, hrest⟩
  · rintro ⟨r, hr, hu, hv, rfl⟩
    exact ⟨r, mem_purge.2 ⟨hr, hlt⟩, hu, hv, rfl⟩

/-! ## One live session -/

/-- An account has at most one session that is live. -/
def OneLive (s : Store) (now : Int) : Prop :=
  ∀ r ∈ s.sessions, ∀ r' ∈ s.sessions, now < r.ttl → now < r'.ttl → r.accountId = r'.accountId →
    r = r'

/-- Sessions that are live later are live before. -/
theorem OneLive.mono (h : s.OneLive now) (hle : now ≤ now') : s.OneLive now' :=
  fun r hr r' hr' hlive hlive' => h r hr r' hr' (by omega) (by omega)

theorem oneLive_of_nil (h : s.sessions = []) : s.OneLive now := by
  simp [OneLive, h]

/-- **A query leaves each account at most one live session.** -/
theorem OneLive.run (hone : s.OneLive now) (hs : s.SessionsInOrder) {q : Query} {x : q.Answer}
    (h : s.run now q = .ok (x, s')) : s'.OneLive now := by
  intro r hr r' hr' hlive hlive' hu
  refine (hs.run h).eq_of_value_eq hr hr' ?_
  -- what is live afterwards, beyond a new session, was there before
  have hback {r : Session} (hr : r ∈ s'.sessions) (hlive : now < r.ttl)
      (hopen : ∀ v ttl, q ≠ .openSession r.accountId v ttl) : r ∈ s.sessions := by
    rcases mem_sessions_of_run h hr with hr | ⟨r, -, -, -, rfl⟩ | hq
    · exact hr
    · have hend : (r.endedAt now).ttl = now - 1 := rfl
      omega
    · exact absurd hq (hopen _ _)
  by_cases hopen : ∃ v ttl, q = .openSession r.accountId v ttl
  · obtain ⟨v, ttl, rfl⟩ := hopen
    have hv := (holds_openSession h hlive).1 ⟨r, hr, rfl, rfl, rfl⟩
    have hv' := (holds_openSession h hlive').1 ⟨r', hr', rfl, rfl, rfl⟩
    rw [if_pos rfl] at hv
    rw [if_pos hu.symm] at hv'
    rw [hv.1, hv'.1]
  · have hmem := hback hr hlive fun v ttl hq => hopen ⟨v, ttl, hq⟩
    have hmem' := hback hr' hlive' fun v ttl hq => hopen ⟨v, ttl, hu ▸ hq⟩
    rw [hone r hmem r' hmem' hlive hlive' hu]

theorem mem_liveSessions : r ∈ s.liveSessions now u ↔
    r ∈ s.sessions ∧ r.accountId = u ∧ now < r.ttl := by
  simp [liveSessions, Session.isLive_iff]

/-- The live session that is found is one of the account, and live. -/
theorem mem_of_liveSession (h : s.liveSession now u = .ok r) :
    r ∈ s.sessions ∧ r.accountId = u ∧ now < r.ttl := by
  unfold liveSession at h
  split at h
  · next r' hr' =>
    cases h
    exact mem_liveSessions.1 (List.mem_of_getLast? hr')
  · cases h

/-- **The live session of an account is the one there is.** -/
theorem liveSession_eq_ok_iff (hone : s.OneLive now) :
    s.liveSession now u = .ok r ↔ r ∈ s.sessions ∧ r.accountId = u ∧ now < r.ttl := by
  refine ⟨mem_of_liveSession, ?_⟩
  rintro ⟨hr, hu, hlive⟩
  unfold liveSession
  split
  · next r' hr' =>
    obtain ⟨hmem', hu', hlive'⟩ := mem_liveSessions.1 (List.mem_of_getLast? hr')
    rw [hone r' hmem' r hr hlive' hlive (hu'.trans hu.symm)]
  · next hnone =>
    have hmem := mem_liveSessions.2 ⟨hr, hu, hlive⟩
    rw [List.getLast?_eq_none_iff.1 hnone] at hmem
    cases hmem

/-- An account has no live session exactly if all of its sessions have
ended. -/
theorem liveSession_eq_error_iff {e : StoreError} :
    s.liveSession now u = .error e ↔
      e = .noLiveSession u ∧ ∀ r ∈ s.sessions, r.accountId = u → r.ttl ≤ now := by
  have hnil : s.liveSessions now u = [] ↔ ∀ r ∈ s.sessions, r.accountId = u → r.ttl ≤ now := by
    simp [liveSessions, List.filter_eq_nil_iff, Session.isLive]
  unfold liveSession
  split
  · next r hr =>
    have hne : s.liveSessions now u ≠ [] := by
      intro h
      simp [h] at hr
    rw [Ne, hnil] at hne
    simp [hne]
  · next hnone =>
    rw [List.getLast?_eq_none_iff, hnil] at hnone
    rw [Except.error.injEq]
    exact ⟨fun h => ⟨h.symm, hnone⟩, fun h => h.1.symm⟩

/-- There is at most one row in the list of live sessions. -/
theorem length_liveSessions_le_one (hs : s.SessionsInOrder) (hone : s.OneLive now) (u : Int) :
    (s.liveSessions now u).length ≤ 1 := by
  have hnodup : (s.liveSessions now u).Nodup := (List.Nodup.of_map _ hs.values).filter _
  match hlist : s.liveSessions now u with
  | [] => simp
  | [r] => simp
  | r :: r' :: rest =>
    -- two rows would be one and the same, and the list has no row twice
    have hmem : r ∈ s.liveSessions now u := by simp [hlist]
    have hmem' : r' ∈ s.liveSessions now u := by simp [hlist]
    obtain ⟨hr, hu, hlive⟩ := mem_liveSessions.1 hmem
    obtain ⟨hr', hu', hlive'⟩ := mem_liveSessions.1 hmem'
    rw [hlist, hone r hr r' hr' hlive hlive' (hu.trans hu'.symm)] at hnodup
    simp at hnodup

end Store

end SignOn
