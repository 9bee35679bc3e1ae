import Mathlib.Data.List.Induction
import SignOn.Proofs.Store.Sessions
/-!
# Sessions as a map

Seen from outside, the table of sessions is a map that gives each account
at most one session. What the map holds can be read off a history of
queries and answers: the last session that was opened for the account,
if it was not ended since and if its time is not over. `purge` plays no
part in that, although it takes rows away.

The histories here are any lists of queries, with times that do not go
back. Purges reach up to their own time at most.
-/

namespace SignOn

/-! ## Histories -/

/-- Something was opened in a history and not closed since. -/
def Standing {ε : Type} (opens closes : ε → Prop) (h : List ε) : Prop :=
  ∃ before e after, h = before ++ e :: after ∧ opens e ∧ ∀ e' ∈ after, ¬ closes e'

theorem not_standing_nil {ε : Type} {opens closes : ε → Prop} : ¬ Standing opens closes [] := by
  rintro ⟨before, e, after, h, -⟩
  simp at h

/-- **What stands after one more entry**: what it opens, and what stood
before and is not closed by it. -/
theorem standing_concat {ε : Type} {opens closes : ε → Prop} {h : List ε} {e : ε} :
    Standing opens closes (h ++ [e]) ↔ opens e ∨ Standing opens closes h ∧ ¬ closes e := by
  constructor
  · rintro ⟨before, e', after, heq, hopens, hcloses⟩
    rcases List.eq_nil_or_concat after with rfl | ⟨after, e'', rfl⟩
    · obtain ⟨rfl, rfl⟩ := List.append_singleton_inj.1 heq
      exact .inl hopens
    · rw [List.concat_eq_append, ← List.cons_append, ← List.append_assoc] at heq
      obtain ⟨rfl, rfl⟩ := List.append_singleton_inj.1 heq
      refine .inr ⟨⟨before, e', after, rfl, hopens, fun x hx => ?_⟩, ?_⟩
      · exact hcloses x (by simp [hx])
      · exact hcloses e (by simp)
  · rintro (hopens | ⟨⟨before, e', after, rfl, hopens, hcloses⟩, he⟩)
    · exact ⟨h, e, [], rfl, hopens, by simp⟩
    · refine ⟨before, e', after ++ [e], by simp, hopens, fun x hx => ?_⟩
      rcases List.mem_append.1 hx with hx | hx
      · exact hcloses x hx
      · rwa [List.mem_singleton.1 hx]

/-- Whether a query removes sessions that have ended. -/
def Query.isPurge : Query → Bool
  | .purge _ => true
  | _ => false

/-- A query and when it is asked. -/
structure Asked where
  time : Int
  query : Query

/-- A query, when it was asked, and what it answered. -/
structure Answered extends Asked where
  answer : Except StoreError query.Answer

/-- Times do not go back, and no purge reaches beyond its own time. -/
structure Timely (asks : List Asked) : Prop where
  times : asks.Pairwise fun a b => a.time ≤ b.time
  purges : ∀ a ∈ asks, ∀ before, a.query = .purge before → before ≤ a.time

/-- The beginning of a timely list is timely. -/
theorem Timely.of_append {asks later : List Asked} (h : Timely (asks ++ later)) : Timely asks where
  times := (List.pairwise_append.1 h.times).1
  purges a ha := h.purges a (List.mem_append_left _ ha)

/-- What comes after the first query of a timely list is timely. -/
theorem Timely.tail {a : Asked} {asks : List Asked} (h : Timely (a :: asks)) : Timely asks where
  times := h.times.of_cons
  purges b hb := h.purges b (List.mem_cons_of_mem _ hb)

namespace Store

/-- The answer to a query, and the store after it. -/
def ask (s : Store) (a : Asked) : Except StoreError a.query.Answer × Store :=
  match s.run a.time a.query with
  | .ok (x, s') => (.ok x, s')
  | .error e => (.error e, s)

/-- The store after a list of queries. -/
def after (s : Store) (asks : List Asked) : Store :=
  asks.foldl (fun s a => (s.ask a).2) s

/-- What a list of queries is answered. -/
def transcript (s : Store) : List Asked → List Answered
  | [] => []
  | a :: asks => ⟨a, (s.ask a).1⟩ :: (s.ask a).2.transcript asks

theorem after_concat (s : Store) (asks : List Asked) (a : Asked) :
    s.after (asks ++ [a]) = ((s.after asks).ask a).2 := by
  simp [after]

theorem transcript_concat (s : Store) (asks : List Asked) (a : Asked) :
    s.transcript (asks ++ [a]) = s.transcript asks ++ [⟨a, ((s.after asks).ask a).1⟩] := by
  induction asks generalizing s with
  | nil => rfl
  | cons b asks ih =>
    rw [List.cons_append, transcript, ih, transcript, List.cons_append]
    rfl

/-- An answer is what the query gives, or the store stays. -/
theorem ask_cases (s : Store) (a : Asked) :
    (∃ x s', s.run a.time a.query = .ok (x, s') ∧ s.ask a = (.ok x, s')) ∨
      ∃ e, s.run a.time a.query = .error e ∧ s.ask a = (.error e, s) := by
  unfold ask
  cases h : s.run a.time a.query with
  | ok p => exact .inl ⟨p.1, p.2, rfl, rfl⟩
  | error e => exact .inr ⟨e, rfl, rfl⟩

end Store

/-! ## The map -/

/-- A session was opened for an account, with a token and an end. -/
def Answered.Opens (u : Int) (v : String) (ttl : Int) (e : Answered) : Prop :=
  e.query = .openSession u v ttl ∧ e.answer.isOk

/-- The session of an account with a token is over: another one was
opened, or this one was ended. -/
def Answered.Closes (u : Int) (v : String) (e : Answered) : Prop :=
  ((∃ v' ttl, e.query = .openSession u v' ttl) ∨ e.query = .endSession v) ∧ e.answer.isOk

/-- What a history gives an account: the last session opened for it, if
it was not ended since. -/
def Gives (h : List Answered) (u : Int) (v : String) (ttl : Int) : Prop :=
  Standing (Answered.Opens u v ttl) (Answered.Closes u v) h

namespace Store

variable {s s' start : Store} {now now' u u' ttl : Int} {v : String} {h : List Answered}

/-- A store is in step with a history: beyond a moment, it holds what the
history gives. -/
structure InStep (now : Int) (h : List Answered) (s : Store) : Prop where
  inOrder : s.SessionsInOrder
  oneLive : s.OneLive now
  holds_iff : ∀ u v ttl, now < ttl → (s.Holds u v ttl ↔ Gives h u v ttl)

theorem InStep.mono (hs : InStep now h s) (hle : now ≤ now') : InStep now' h s where
  inOrder := hs.inOrder
  oneLive := hs.oneLive.mono hle
  holds_iff u v ttl hlt := hs.holds_iff u v ttl (by omega)

theorem inStep_of_nil (hs : s.sessions = []) : InStep now [] s where
  inOrder := sessionsInOrder_of_nil hs
  oneLive := oneLive_of_nil hs
  holds_iff u v ttl _ := iff_of_false (by simp [Holds, hs]) not_standing_nil

/-- Opening a session opens that session, and closes those of the same
account. -/
theorem holds_openSession_iff {t u₀ ttl₀ id : Int} {v₀ : String}
    (hopen : s.openSession t u₀ v₀ ttl₀ = .ok (id, s')) (hlt : t < ttl) :
    s'.Holds u v ttl ↔ (Answered.mk ⟨t, .openSession u₀ v₀ ttl₀⟩ (.ok id)).Opens u v ttl ∨
      s.Holds u v ttl ∧ ¬ (Answered.mk ⟨t, .openSession u₀ v₀ ttl₀⟩ (.ok id)).Closes u v := by
  rw [holds_openSession hopen hlt]
  simp only [Answered.Opens, Answered.Closes, Except.isOk, Except.toBool,
    Query.openSession.injEq, reduceCtorEq, or_false, and_true]
  split
  · next hu =>
    subst hu
    constructor
    · rintro ⟨rfl, rfl⟩
      exact .inl ⟨rfl, rfl, rfl⟩
    · rintro (⟨-, rfl, rfl⟩ | ⟨-, hclosed⟩)
      · exact ⟨rfl, rfl⟩
      · exact absurd ⟨v₀, ttl₀, rfl, rfl, rfl⟩ hclosed
  · next hu =>
    constructor
    · intro hs
      exact .inr ⟨hs, fun ⟨_, _, he, _⟩ => hu he.symm⟩
    · rintro (⟨rfl, -⟩ | ⟨hs, -⟩)
      · exact absurd rfl hu
      · exact hs

/-- What is held after one query, beyond its time, is what was held
before and the query does not close, and what it opens. -/
theorem holds_ask (a : Asked) (hlt : a.time < ttl)
    (hpurge : ∀ before, a.query = .purge before → before ≤ a.time) :
    (s.ask a).2.Holds u v ttl ↔ (Answered.mk a (s.ask a).1).Opens u v ttl ∨
      s.Holds u v ttl ∧ ¬ (Answered.mk a (s.ask a).1).Closes u v := by
  obtain ⟨t, q⟩ := a
  rcases ask_cases s ⟨t, q⟩ with ⟨x, s', hrun, hask⟩ | ⟨e, hrun, hask⟩
  · rw [hask]
    rcases sessions_cases hrun with ⟨u₀, v₀, ttl₀, rfl⟩ | ⟨v₀, rfl⟩ | ⟨before, rfl, rfl⟩ |
      ⟨hsame, hopen, hend⟩
    · exact holds_openSession_iff hrun hlt
    · rw [holds_endSession (changed_eq_ok_iff.1 hrun) hlt]
      simp only [Answered.Opens, Answered.Closes, Except.isOk, Except.toBool,
        Query.endSession.injEq, reduceCtorEq, exists_false, false_or, and_true]
      rw [and_comm, ne_comm]
    · -- a purge takes away only what has ended by now
      rw [holds_purge (Int.lt_of_le_of_lt (hpurge before rfl) hlt)]
      simp [Answered.Opens, Answered.Closes]
    · simp [Answered.Opens, Answered.Closes, hopen, hend, Holds, hsame]
  · rw [hask]
    simp [Answered.Opens, Answered.Closes, Except.isOk, Except.toBool]

/-- **A query keeps a store in step.** -/
theorem InStep.ask (a : Asked) (hs : InStep a.time h s)
    (hpurge : ∀ before, a.query = .purge before → before ≤ a.time) :
    InStep a.time (h ++ [⟨a, (s.ask a).1⟩]) (s.ask a).2 := by
  have hholds u v ttl (hlt : a.time < ttl) :
      (s.ask a).2.Holds u v ttl ↔ Gives (h ++ [⟨a, (s.ask a).1⟩]) u v ttl := by
    rw [holds_ask a hlt hpurge, hs.holds_iff u v ttl hlt]
    exact standing_concat.symm
  rcases ask_cases s a with ⟨x, s', hrun, hask⟩ | ⟨e, hrun, hask⟩
  · rw [hask] at hholds ⊢
    exact ⟨hs.inOrder.run hrun, hs.oneLive.run hs.inOrder hrun, hholds⟩
  · rw [hask] at hholds ⊢
    exact ⟨hs.inOrder, hs.oneLive, hholds⟩

/-- **A store stays in step with its history.** -/
theorem inStep_after (hstart : start.sessions = []) {asks : List Asked} (hasks : Timely asks)
    (hnow : ∀ a ∈ asks, a.time ≤ now) :
    InStep now (start.transcript asks) (start.after asks) := by
  induction asks using List.reverseRecOn generalizing now with
  | nil => exact inStep_of_nil hstart
  | append_singleton asks a ih =>
    -- in step at the time of the last query, by then the latest of all
    have htimes := (List.pairwise_append.1 hasks.times).2.2
    have hbefore : InStep a.time (start.transcript asks) (start.after asks) :=
      ih hasks.of_append fun b hb => htimes b hb a (List.mem_singleton_self a)
    rw [transcript_concat, after_concat]
    exact (hbefore.ask a (hasks.purges a (by simp))).mono (hnow a (by simp))

/-! ## Purges do not matter -/

/-- A store without the sessions that have certain tokens. -/
def thin (s : Store) (gone : List String) : Store :=
  { s with sessions := s.sessions.filter fun r => r.value ∉ gone }

theorem thin_nil (s : Store) : s.thin [] = s := by
  simp [thin]

theorem thin_thin (s : Store) (gone gone' : List String) :
    (s.thin gone).thin gone' = s.thin (gone ++ gone') := by
  unfold thin
  congr 1
  rw [List.filter_filter]
  refine List.filter_congr fun r _ => ?_
  rw [← Bool.decide_and]
  refine decide_eq_decide.2 ?_
  rw [List.mem_append, not_or, and_comm]

/-- The tokens that a purge takes away. -/
def ended (s : Store) (before : Int) : List String :=
  (s.sessions.filter fun r => decide (r.ttl ≤ before)).map (·.value)

theorem mem_ended {before : Int} : v ∈ s.ended before ↔
    ∃ r ∈ s.sessions, r.ttl ≤ before ∧ r.value = v := by
  simp [ended, and_assoc]

/-- A purge thins the store. -/
theorem purge_snd_eq_thin (hs : s.SessionsInOrder) (before : Int) :
    (s.purge before).2 = s.thin (s.ended before) := by
  rw [purge_snd, thin]
  congr 1
  refine List.filter_congr fun r hr => decide_eq_decide.2 ?_
  rw [mem_ended, ← Int.not_le, not_iff_not]
  constructor
  · intro httl
    exact ⟨r, hr, httl, rfl⟩
  · rintro ⟨r', hr', httl, hv⟩
    rwa [← hs.eq_of_value_eq hr' hr hv]

/-- Taking tokens away and ending sessions can be done in either order. -/
theorem endSessions_thin (s : Store) (gone : List String) (p : Session → Bool) :
    (s.thin gone).endSessions now p = (s.endSessions now p).thin gone := by
  unfold endSessions thin
  congr 1
  rw [List.filter_map]
  congr 1
  refine List.filter_congr fun r _ => ?_
  show decide (r.value ∉ gone) =
    decide ((if p r && r.isLive now then r.endedAt now else r).value ∉ gone)
  split <;> rfl

/-- A session that a test holds of is found in a thinned store too, if
the test does not hold of what was taken away. -/
theorem any_thin {gone : List String} {p : Session → Bool}
    (h : ∀ r ∈ s.sessions, p r = true → r.value ∉ gone) :
    (s.thin gone).sessions.any p = s.sessions.any p := by
  rw [Bool.eq_iff_iff, List.any_eq_true, List.any_eq_true]
  constructor
  · rintro ⟨r, hr, hp⟩
    exact ⟨r, List.mem_of_mem_filter hr, hp⟩
  · rintro ⟨r, hr, hp⟩
    exact ⟨r, List.mem_filter.2 ⟨hr, decide_eq_true (h r hr hp)⟩, hp⟩

/-- What a purge takes away is not live. -/
def Dead (s : Store) (now : Int) (gone : List String) : Prop :=
  ∀ r ∈ s.sessions, r.value ∈ gone → r.ttl ≤ now

variable {gone : List String}

theorem Dead.notMem (h : s.Dead now gone) {r : Session} (hr : r ∈ s.sessions)
    (hlive : r.isLive now = true) : r.value ∉ gone := by
  intro hv
  have := h r hr hv
  rw [Session.isLive_iff] at hlive
  omega

/-- What is taken away was not live, so that the same sessions are live. -/
theorem filter_isLive_thin (h : s.Dead now gone) :
    (s.thin gone).sessions.filter (·.isLive now) = s.sessions.filter (·.isLive now) := by
  unfold thin
  rw [List.filter_filter]
  refine List.filter_congr fun r hr => ?_
  by_cases hlive : r.isLive now = true
  · simp [h.notMem hr hlive, hlive]
  · simp [hlive]

theorem openSession_thin (hv : v ∉ gone) :
    (s.thin gone).openSession now u v ttl =
      (s.openSession now u v ttl).map fun p => (p.1, p.2.thin gone) := by
  have hany : ((s.endSessions now fun r => r.accountId == u).thin gone).sessions.any
      (fun r => r.value == v) = (s.endSessions now fun r => r.accountId == u).sessions.any
        fun r => r.value == v :=
    any_thin fun r _ hp => by rwa [beq_iff_eq.1 hp]
  unfold openSession insertSession
  rw [endSessions_thin, hany]
  split
  · rfl
  · change (if (s.account? u).isNone then _ else _) =
      Except.map _ (if (s.account? u).isNone then _ else _)
    split
    · rfl
    · simp only [Except.map, thin, List.filter_append, List.filter_singleton, hv, not_false_eq_true,
        decide_true, cond_true]

theorem endSession_thin (h : s.Dead now gone) :
    (s.thin gone).endSession now v = (s.endSession now v).map fun s' => s'.thin gone := by
  unfold endSession
  rw [any_thin fun r hr hp => h.notMem hr (Bool.and_eq_true_iff.1 hp).2, endSessions_thin]
  split <;> rfl

theorem liveSession_thin (h : s.Dead now gone) :
    (s.thin gone).liveSession now u = s.liveSession now u := by
  have hrows : (s.thin gone).liveSessions now u = s.liveSessions now u := by
    unfold liveSessions thin
    rw [List.filter_filter]
    refine List.filter_congr fun r hr => ?_
    by_cases hlive : r.isLive now = true
    · simp [h.notMem hr hlive]
    · simp [hlive]
  unfold liveSession
  rw [hrows]

theorem purge_thin (before : Int) :
    ((s.thin gone).purge before).2 = (s.purge before).2.thin gone := by
  rw [purge_snd, purge_snd]
  unfold thin
  congr 1
  rw [List.filter_filter, List.filter_filter]
  exact List.filter_congr fun r _ => Bool.and_comm _ _

theorem changed_thin (x : Except StoreError Store) :
    changed (x.map fun s' => s'.thin gone) = (changed x).map fun p => (p.1, p.2.thin gone) := by
  cases x <;> rfl

theorem unchanged_thin {α : Type} (x : Except StoreError α) :
    (s.thin gone).unchanged x = (s.unchanged x).map fun p => (p.1, p.2.thin gone) := by
  cases x <;> rfl

/-- A query about accounts does not look at sessions. -/
theorem run_accounts_thin {q : Query} (hlive : ∀ u, q ≠ .liveSession u)
    (hopen : ∀ u v ttl, q ≠ .openSession u v ttl) (hend : ∀ v, q ≠ .endSession v)
    (hpurge : ∀ before, q ≠ .purge before) :
    (s.thin gone).run now q = (s.run now q).map fun p => (p.1, p.2.thin gone) := by
  have hchange (id : Int) (f : Account → Account) :
      (s.thin gone).changeAccount now id f =
        (s.changeAccount now id f).map fun s' => s'.thin gone := by
    unfold changeAccount
    change (if (s.account? id).isSome then _ else _) = _
    split <;> rfl
  cases q with
  | insertAccount new =>
    change insertAccount _ now new = Except.map _ (s.insertAccount now new)
    unfold insertAccount
    change (if s.accounts.any _ then _ else _) = _
    split <;> rfl
  | accountById id => exact unchanged_thin (s.accountById id)
  | accountByEmail email => exact unchanged_thin (s.accountByEmail email)
  | listAccounts page => exact unchanged_thin (.ok (s.listAccounts page))
  | updateProfile id patch => exact (congrArg changed (hchange _ _)).trans (changed_thin _)
  | confirmEmail id =>
    refine (congrArg changed ?_).trans (changed_thin _)
    unfold confirmEmail
    rw [show (s.thin gone).account? id = s.account? id from rfl]
    cases s.account? id with
    | none => rfl
    | some a =>
      simp only
      split
      · rfl
      · exact hchange _ _
  | setPassword id hash => exact (congrArg changed (hchange _ _)).trans (changed_thin _)
  | openSession u v ttl => exact absurd rfl (hopen u v ttl)
  | liveSession u => exact absurd rfl (hlive u)
  | endSession v => exact absurd rfl (hend v)
  | purge before => exact absurd rfl (hpurge before)

/-- **A thinned store answers alike**, as long as no token that was taken
away is used again. -/
theorem run_thin {q : Query} (h : s.Dead now gone) (hpurge : ∀ before, q ≠ .purge before)
    (hreuse : ∀ u v ttl, q = .openSession u v ttl → v ∉ gone) :
    (s.thin gone).run now q = (s.run now q).map fun p => (p.1, p.2.thin gone) := by
  by_cases hopen : ∃ u v ttl, q = .openSession u v ttl
  · obtain ⟨u, v, ttl, rfl⟩ := hopen
    exact openSession_thin (hreuse u v ttl rfl)
  by_cases hend : ∃ v, q = .endSession v
  · obtain ⟨v, rfl⟩ := hend
    exact (congrArg changed (endSession_thin h)).trans (changed_thin _)
  by_cases hlive : ∃ u, q = .liveSession u
  · obtain ⟨u, rfl⟩ := hlive
    exact (congrArg (unchanged _) (liveSession_thin h)).trans (unchanged_thin _)
  · exact run_accounts_thin (fun u he => hlive ⟨u, he⟩) (fun u v ttl he => hopen ⟨u, v, ttl, he⟩)
      (fun v he => hend ⟨v, he⟩) hpurge

theorem ask_thin {a : Asked} (h : s.Dead a.time gone) (hpurge : ∀ before, a.query ≠ .purge before)
    (hreuse : ∀ u v ttl, a.query = .openSession u v ttl → v ∉ gone) :
    (s.thin gone).ask a = ((s.ask a).1, (s.ask a).2.thin gone) := by
  unfold ask
  rw [run_thin h hpurge hreuse]
  cases s.run a.time a.query <;> rfl

/-- What was not live at a moment stays so, unless a token is used
again. -/
theorem Dead.run_later (h : s.Dead now gone) (hle : now ≤ now') {q : Query} {x : q.Answer}
    (hrun : s.run now' q = .ok (x, s'))
    (hreuse : ∀ u v ttl, q = .openSession u v ttl → v ∉ gone) : s'.Dead now gone := by
  intro r hr hv
  rcases mem_sessions_of_run hrun hr with hr | ⟨r, hold, -, hlive, rfl⟩ | hq
  · exact h r hr hv
  · -- only what is live is ended
    have := h r hold hv
    omega
  · exact absurd hv (hreuse _ _ _ hq)

/-- What is not live stays so, unless a token is used again. -/
theorem Dead.run (h : s.Dead now gone) {q : Query} {x : q.Answer}
    (hrun : s.run now q = .ok (x, s'))
    (hreuse : ∀ u v ttl, q = .openSession u v ttl → v ∉ gone) : s'.Dead now gone :=
  h.run_later (Int.le_refl now) hrun hreuse

theorem Dead.ask {a : Asked} (h : s.Dead a.time gone)
    (hreuse : ∀ u v ttl, a.query = .openSession u v ttl → v ∉ gone) :
    (s.ask a).2.Dead a.time gone := by
  rcases ask_cases s a with ⟨x, s', hrun, hask⟩ | ⟨e, -, hask⟩
  · rw [hask]
    exact h.run hrun hreuse
  · rwa [hask]

theorem Dead.mono (h : s.Dead now gone) (hle : now ≤ now') : s.Dead now' gone :=
  fun r hr hv => Int.le_trans (h r hr hv) hle

/-- What was answered to other queries than purges; a purge answers how
many rows it removed. -/
def answers (h : List Answered) : List Answered :=
  h.filter fun e => !e.query.isPurge

/-- **A thinned store goes on answering alike.** -/
theorem answers_transcript_thin {later : List Asked} (hlater : Timely later)
    (hnow : ∀ a ∈ later, now ≤ a.time) (hdead : s.Dead now gone)
    (hreuse : ∀ a ∈ later, ∀ u v ttl, a.query = .openSession u v ttl → v ∉ gone) :
    answers ((s.thin gone).transcript later) = answers (s.transcript later) := by
  induction later generalizing s now with
  | nil => rfl
  | cons a later ih =>
    have hdead := hdead.mono (hnow a List.mem_cons_self)
    have hreuse_a := hreuse a List.mem_cons_self
    have hrest : answers (((s.ask a).2.thin gone).transcript later) =
        answers ((s.ask a).2.transcript later) := by
      refine ih hlater.tail (fun b hb => ?_) (hdead.ask hreuse_a) fun b hb =>
        hreuse b (List.mem_cons_of_mem _ hb)
      exact List.rel_of_pairwise_cons hlater.times hb
    by_cases hpurge : ∃ before, a.query = .purge before
    · -- two purges may remove different rows, but their answers do not count
      obtain ⟨t, q⟩ := a
      obtain ⟨before, rfl⟩ := hpurge
      have hskip (s : Store) : answers (s.transcript (⟨t, .purge before⟩ :: later)) =
          answers ((s.purge before).2.transcript later) :=
        List.filter_cons_of_neg (by simp [Query.isPurge])
      rw [hskip, hskip, purge_thin]
      exact hrest
    · rw [transcript, ask_thin hdead (fun before hq => hpurge ⟨before, hq⟩) hreuse_a, transcript,
        answers, answers, List.filter_cons, List.filter_cons]
      change (if _ then _ :: answers _ else answers _) = _
      rw [hrest]
      rfl

/-! ## What the map answers -/

/-- **The live session of an account is what its history gives it.** -/
theorem InStep.liveSession_iff (hs : InStep now h s) :
    (∃ r, s.liveSession now u = .ok r ∧ r.value = v ∧ r.ttl = ttl) ↔
      Gives h u v ttl ∧ now < ttl := by
  constructor
  · rintro ⟨r, hr, rfl, rfl⟩
    obtain ⟨hmem, rfl, hlive⟩ := (liveSession_eq_ok_iff hs.oneLive).1 hr
    exact ⟨(hs.holds_iff _ _ _ hlive).1 ⟨r, hmem, rfl, rfl, rfl⟩, hlive⟩
  · rintro ⟨hgives, hlive⟩
    obtain ⟨r, hmem, rfl, rfl, rfl⟩ := (hs.holds_iff _ _ _ hlive).2 hgives
    exact ⟨r, (liveSession_eq_ok_iff hs.oneLive).2 ⟨hmem, rfl, hlive⟩, rfl, rfl⟩

/-- Where a history gives nothing, no session is found. -/
theorem InStep.liveSession_eq_error (hs : InStep now h s)
    (hnone : ∀ v ttl, Gives h u v ttl → ttl ≤ now) :
    s.liveSession now u = .error (.noLiveSession u) := by
  refine liveSession_eq_error_iff.2 ⟨rfl, fun r hr hu => ?_⟩
  by_contra hlive
  have hlt : now < r.ttl := by omega
  have := hnone r.value r.ttl ((hs.holds_iff _ _ _ hlt).1 ⟨r, hr, hu, rfl, rfl⟩)
  omega

/-- A session is ended by its token exactly if it is the live one of some
account. -/
theorem exists_endSession_iff (hone : s.OneLive now) :
    (∃ s', s.endSession now v = .ok s') ↔ ∃ u r, s.liveSession now u = .ok r ∧ r.value = v := by
  simp only [endSession_eq_ok_iff, liveSession_eq_ok_iff hone]
  constructor
  · rintro ⟨-, ⟨r, hr, hv, hlive⟩, -⟩
    exact ⟨r.accountId, r, ⟨hr, rfl, hlive⟩, hv⟩
  · rintro ⟨-, r, ⟨hr, -, hlive⟩, hv⟩
    exact ⟨_, ⟨r, hr, hv, hlive⟩, rfl⟩

/-- What a failed end of a session answers. -/
theorem endSession_error {e : StoreError} (h : s.endSession now v = .error e) :
    e = .noSuchSession := by
  unfold endSession at h
  split at h
  · cases h
  · exact (Except.error.inj h).symm

/-- **Ending a session ends that of one account**, and all others go on
as before. -/
theorem liveSession_endSession (hs : s.SessionsInOrder) (hone : s.OneLive now)
    (h : s.endSession now v = .ok s') :
    ∃ u, (∃ r, s.liveSession now u = .ok r ∧ r.value = v) ∧ ∀ later, now ≤ later →
      s'.liveSession later u = .error (.noLiveSession u) ∧
        ∀ u', u' ≠ u → s'.liveSession later u' = s.liveSession later u' := by
  obtain ⟨⟨r, hr, hv, hlive⟩, heq⟩ := endSession_eq_ok_iff.1 h
  refine ⟨r.accountId, ⟨r, (liveSession_eq_ok_iff hone).2 ⟨hr, rfl, hlive⟩, hv⟩, ?_⟩
  intro later hle
  constructor
  · -- a session left to the account would be the one that was ended
    refine liveSession_eq_error_iff.2 ⟨rfl, fun r' hr' hu => ?_⟩
    by_contra hend
    have hlt : now < r'.ttl := by omega
    obtain ⟨hne, r'', hr'', hu'', hv'', httl⟩ :=
      (holds_endSession h hlt).1 ⟨r', hr', rfl, rfl, rfl⟩
    have hsame := hone r'' hr'' r hr (by omega) hlive (hu''.trans hu)
    rw [← hv'', hsame] at hne
    exact hne hv
  · intro u' hu'
    have hone' : s'.OneLive later :=
      (hone.run hs (q := .endSession v) (x := ()) (changed_eq_ok_iff.2 h)).mono hle
    cases hfound : s.liveSession later u' with
    | ok r' =>
      obtain ⟨hr', hu'', hlive'⟩ := (liveSession_eq_ok_iff (hone.mono hle)).1 hfound
      have hne : r'.value ≠ v := by
        intro hv'
        have hsame := hs.eq_of_value_eq hr' hr (hv'.trans hv.symm)
        exact hu' (hu''.symm.trans (congrArg Session.accountId hsame))
      have hmem : r' ∈ s'.sessions := by
        rw [heq]
        exact mem_endSessions.2 (.inl ⟨hr', by simp [hne]⟩)
      exact (liveSession_eq_ok_iff hone').2 ⟨hmem, hu'', hlive'⟩
    | error e =>
      obtain ⟨rfl, hended⟩ := liveSession_eq_error_iff.1 hfound
      refine liveSession_eq_error_iff.2 ⟨rfl, fun r' hr' hu'' => ?_⟩
      rw [heq] at hr'
      rcases mem_endSessions.1 hr' with ⟨hr', -⟩ | ⟨r', -, -, -, rfl⟩
      · exact hended r' hr' hu''
      · show now - 1 ≤ later
        omega

/-- **A purge changes no answer about live sessions**, now or later, as
long as no token that it removed is used again. -/
theorem answers_transcript_purge (hs : s.SessionsInOrder) {before : Int} (hle : before ≤ now)
    {later : List Asked} (hlater : Timely later) (hnow : ∀ a ∈ later, now ≤ a.time)
    (hreuse : ∀ a ∈ later, ∀ u v ttl, a.query = .openSession u v ttl →
      ∀ r ∈ s.sessions, r.value = v → before < r.ttl) :
    answers ((s.purge before).2.transcript later) = answers (s.transcript later) := by
  rw [purge_snd_eq_thin hs before]
  refine answers_transcript_thin hlater hnow (fun r hr hv => ?_) fun a ha u v ttl hq hv => ?_
  · obtain ⟨r', hr', httl, hv'⟩ := mem_ended.1 hv
    rw [← hs.eq_of_value_eq hr' hr hv']
    omega
  · obtain ⟨r, hr, httl, hv'⟩ := mem_ended.1 hv
    have := hreuse a ha u v ttl hq r hr hv'
    omega

/-! ## The refinement -/

/-- **The sessions of a store are a map.** After any timely list of
queries, and at any moment from then on: an account has at most one live
session; it is the last one opened for the account, unless that was ended
since or its time is over; a session is ended by its token exactly if it
is live, and no other ends with it; and a purge of what has ended changes
no answer from then on, but to an attempt to use a removed token
again. -/
theorem sessions_refine_map (start : Store) (hstart : start.sessions = []) (asks : List Asked)
    (hasks : Timely asks) (now : Int) (hnow : ∀ a ∈ asks, a.time ≤ now) :
    (∀ u, ((start.after asks).liveSessions now u).length ≤ 1) ∧
    (∀ u v ttl, (∃ r, (start.after asks).liveSession now u = .ok r ∧ r.value = v ∧ r.ttl = ttl) ↔
      Gives (start.transcript asks) u v ttl ∧ now < ttl) ∧
    (∀ u, (∀ v ttl, Gives (start.transcript asks) u v ttl → ttl ≤ now) →
      (start.after asks).liveSession now u = .error (.noLiveSession u)) ∧
    (∀ v, ((∃ s', (start.after asks).endSession now v = .ok s') ↔
        ∃ u r, (start.after asks).liveSession now u = .ok r ∧ r.value = v) ∧
      (∀ e, (start.after asks).endSession now v = .error e → e = .noSuchSession) ∧
      ∀ s', (start.after asks).endSession now v = .ok s' →
        ∃ u, (∃ r, (start.after asks).liveSession now u = .ok r ∧ r.value = v) ∧
          ∀ later, now ≤ later → s'.liveSession later u = .error (.noLiveSession u) ∧
            ∀ u', u' ≠ u → s'.liveSession later u' = (start.after asks).liveSession later u') ∧
    ∀ before, before ≤ now → ∀ later, Timely later → (∀ a ∈ later, now ≤ a.time) →
      (∀ a ∈ later, ∀ u v ttl, a.query = .openSession u v ttl →
        ∀ r ∈ (start.after asks).sessions, r.value = v → before < r.ttl) →
      answers (((start.after asks).purge before).2.transcript later) =
        answers ((start.after asks).transcript later) := by
  have hs := inStep_after hstart hasks hnow
  refine ⟨length_liveSessions_le_one hs.inOrder hs.oneLive, fun u v ttl => hs.liveSession_iff,
    fun u => hs.liveSession_eq_error, fun v => ⟨exists_endSession_iff hs.oneLive, ?_, ?_⟩, ?_⟩
  · exact fun e => endSession_error
  · exact fun s' => liveSession_endSession hs.inOrder hs.oneLive
  · intro before hle later hlater hlater_now hreuse
    exact answers_transcript_purge hs.inOrder hle hlater hlater_now hreuse

/-- A store with one account. -/
def oneAccount : Store where
  accounts := [{ id := 1, email := "a@b", passwordHash := "", emailConfirmed := true,
                 displayName := "a", createdAt := 0, updatedAt := 0 }]
  lastAccountId := 1

/-- Two sessions opened one after the other; the first can no longer be
ended, and is removed. -/
def replaced : List Asked :=
  [⟨10, .openSession 1 "first" 20⟩, ⟨15, .openSession 1 "second" 40⟩, ⟨16, .endSession "first"⟩,
    ⟨30, .purge 30⟩]

theorem sessions_refine_map_replaced :
    oneAccount.sessions = [] ∧ Timely replaced ∧ (∀ a ∈ replaced, a.time ≤ 35) ∧
      Gives (oneAccount.transcript replaced) 1 "second" 40 := by
  have htimely : Timely replaced := by
    refine ⟨by decide, fun a ha before hq => ?_⟩
    simp only [replaced, List.mem_cons, List.not_mem_nil, or_false] at ha
    rcases ha with rfl | rfl | rfl | rfl <;> cases hq
    decide
  have hnow : ∀ a ∈ replaced, a.time ≤ 35 := by decide
  have h := sessions_refine_map oneAccount rfl replaced htimely 35 hnow
  have hfound : ∃ r, (oneAccount.after replaced).liveSession 35 1 = .ok r ∧ r.value = "second" ∧
      r.ttl = 40 := ⟨⟨2, 1, "second", 40, 15, 15⟩, by decide, rfl, rfl⟩
  exact ⟨rfl, htimely, hnow, ((h.2.1 1 "second" 40).1 hfound).1⟩

/-- What a purge removes can be told by a later opening with the same
token: it succeeds, where it would have been refused, and the account has
a live session that it would not have had. -/
theorem purge_frees_token :
    Timely [⟨10, .openSession 1 "first" 20⟩] ∧ Timely [⟨30, .openSession 1 "first" 50⟩] ∧
      (((oneAccount.after [⟨10, .openSession 1 "first" 20⟩]).purge 30).2.after
        [⟨30, .openSession 1 "first" 50⟩]).liveSession 31 1 = .ok ⟨2, 1, "first", 50, 30, 30⟩ ∧
      ((oneAccount.after [⟨10, .openSession 1 "first" 20⟩]).after
        [⟨30, .openSession 1 "first" 50⟩]).liveSession 31 1 = .error (.noLiveSession 1) := by
  have htimely (t ttl : Int) : Timely [⟨t, .openSession 1 "first" ttl⟩] := by
    refine ⟨List.pairwise_singleton _ _, fun a ha before hq => ?_⟩
    rw [List.mem_singleton.1 ha] at hq
    cases hq
  exact ⟨htimely 10 20, htimely 30 50, by decide, by decide⟩

end Store

end SignOn
