import SignOn.Proofs.Service.Ways
import SignOn.Proofs.Session.Admission
import SignOn.Proofs.Session.Redeemed
/-!
# How a refresh is answered

A refresh makes three queries at most: it looks the live session of an
account up, ends it and opens another one. Whatever these are answered,
`Service.refresh_course` says which of them are made and what comes of it.
So nothing but the failures of the store tells one refused token from
another, `Service.refresh_opaque`.
-/

namespace SignOn

/-! ## The queries of a program -/

/-- A query that was made, and what it was answered. -/
structure QueryStep where
  query : Query
  reply : Except StoreError query.Answer

/-- The query of a step, if it made one. -/
def Step.query? : Step → Option QueryStep
  | ⟨.query _ q, x⟩ => some ⟨q, x⟩
  | _ => none

/-- The queries that were made, in order. -/
def queries (h : List Step) : List QueryStep :=
  h.filterMap Step.query?

@[simp] theorem queries_nil : queries [] = [] := rfl

@[simp] theorem queries_append (h h' : List Step) : queries (h ++ h') = queries h ++ queries h' :=
  List.filterMap_append

@[simp] theorem queries_query_cons (ctx : RequestContext) (q : Query)
    (x : Except StoreError q.Answer) (h : List Step) :
    queries (⟨.query ctx q, x⟩ :: h) = ⟨q, x⟩ :: queries h := rfl

@[simp] theorem queries_clock_cons (m : Moment) (h : List Step) :
    queries (⟨.clock, m⟩ :: h) = queries h := rfl

@[simp] theorem queries_identifier_cons (id : String) (h : List Step) :
    queries (⟨.identifier, id⟩ :: h) = queries h := rfl

theorem mem_queries {h : List Step} {q : Query} {x : Except StoreError q.Answer} :
    ⟨q, x⟩ ∈ queries h ↔ Got h q x := by
  constructor
  · intro hmem
    obtain ⟨⟨e, r⟩, hr, heq⟩ := List.mem_filterMap.1 hmem
    cases e with
    | query ctx q' =>
      cases heq
      exact ⟨ctx, hr⟩
    | _ => cases heq
  · rintro ⟨ctx, hmem⟩
    exact List.mem_filterMap.2 ⟨_, hmem, rfl⟩

/-- What a query was answered, where all steps got what was to be. -/
theorem Got.reply_eq {reply : (e : Effect) → e.Reply} {h : List Step} {q : Query}
    {x : Except StoreError q.Answer} (hgot : Got h q x)
    (hreplies : ∀ y ∈ h, y.reply = reply y.effect) : ∃ ctx, x = reply (.query ctx q) :=
  hgot.imp fun _ hmem => hreplies _ hmem

/-! ## The course of a refresh -/

/-- The clock shows one time. -/
def ShowsTime (now : Int) : (e : Effect) → e.Reply → Prop
  | .clock, m => m.seconds = now
  | _, _ => True

namespace Service

open Procedure

variable {s : Service} {now : Int} {token : String} {ctx : RequestContext}

/-- A text carries an opaque refresh token, which is read at a time, and
the access token in it admits an account. -/
structure Renews (s : Service) (now : Int) (token t : String) (u : Int) : Prop where
  decodes : Wrapped.decodeString token = .ok t
  admits : ∃ access, s.issuer.parseRefresh now t = some access ∧
    s.issuer.parseEmbeddedAccess access = some u

/-- The queries of a refresh with their replies, and what it answers. -/
inductive RefreshCourse (s : Service) (now : Int) (token : String) :
    List QueryStep → Except (Failure ServiceError) TokenPair → Prop
  | unreadable (hnone : ∀ t u, ¬ s.Renews now token t u) :
      RefreshCourse s now token [] (.error (.reported .invalidToken))
  | noSession {t : String} {u : Int} (ht : s.Renews now token t u) (what : String) :
      RefreshCourse s now token [⟨.liveSession u, .error (.notFound what)⟩]
        (.error (.reported .invalidToken))
  | lookupFailed {t : String} {u : Int} (ht : s.Renews now token t u) (e : StoreError)
      (he : ∀ what, e ≠ .notFound what) :
      RefreshCourse s now token [⟨.liveSession u, .error e⟩] (.error (.reported (.ofStore e)))
  | otherToken {t : String} {u : Int} (ht : s.Renews now token t u) (r : Session)
      (hne : r.value ≠ t) :
      RefreshCourse s now token [⟨.liveSession u, .ok r⟩] (.error (.reported .invalidToken))
  | notEnded {u : Int} (r : Session) (ht : s.Renews now token r.value u) (e : StoreError) :
      RefreshCourse s now token [⟨.liveSession u, .ok r⟩, ⟨.endSession r.value, .error e⟩]
        (.error (.reported .invalidToken))
  | aborted {u : Int} (r : Session) (ht : s.Renews now token r.value u)
      (hfits : ¬ s.issuer.PairFits now) :
      RefreshCourse s now token [⟨.liveSession u, .ok r⟩, ⟨.endSession r.value, .ok ()⟩]
        (.error .aborted)
  | taken {u : Int} (r : Session) (ht : s.Renews now token r.value u) (v : String) (ttl : Int)
      (what : String) :
      RefreshCourse s now token [⟨.liveSession u, .ok r⟩, ⟨.endSession r.value, .ok ()⟩,
        ⟨.openSession u v ttl, .error (.conflict what)⟩] (.error (.reported .sessionExists))
  | notOpened {u : Int} (r : Session) (ht : s.Renews now token r.value u) (v : String) (ttl : Int)
      (e : StoreError) (he : ∀ what, e ≠ .conflict what) :
      RefreshCourse s now token [⟨.liveSession u, .ok r⟩, ⟨.endSession r.value, .ok ()⟩,
        ⟨.openSession u v ttl, .error e⟩] (.error (.reported (.ofStore e)))
  | renewed {u : Int} (r : Session) (ht : s.Renews now token r.value u) (v : String) (ttl : Int)
      (id : Int) (p : TokenPair) :
      RefreshCourse s now token [⟨.liveSession u, .ok r⟩, ⟨.endSession r.value, .ok ()⟩,
        ⟨.openSession u v ttl, .ok id⟩] (.ok p)

/-- A session is opened, or the store refuses to. -/
theorem openSession_course {h : List Step} {u : Int} {r : Session}
    (ht : s.Renews now token r.value u)
    (hqueries : queries h = [⟨.liveSession u, .ok r⟩, ⟨.endSession r.value, .ok ()⟩]) :
    Meets (.history (fun _ _ => True) (ShowsTime now))
      (fun h p => s.RefreshCourse now token (queries h) (.ok p))
      (fun h e => s.RefreshCourse now token (queries h) (.error e)) (s.openSession ctx u) h := by
  obtain ⟨access, hparse, -⟩ := ht.admits
  obtain ⟨c, hc, -⟩ := TokenIssuer.parseRefresh_eq_some_iff.1 hparse
  obtain ⟨d, hd⟩ := exists_digest_of_claims? hc
  -- whoever reads tokens shares a secret, and can sign what expires in range
  have hsigned {h : List Step} {value : TokenValue} {kind : TokenKind} {ttl : Int}
      (hqueries : queries h = [⟨.liveSession u, .ok r⟩, ⟨.endSession r.value, .ok ()⟩])
      (hfits : s.issuer.PairFits now → Fits64 (now + ttl)) {ok : List Step → IssuedToken → Prop}
      (hok : ∀ h' t, queries h' = queries h → ok h' t) :
      Meets (.history (fun _ _ => True) (ShowsTime now)) ok
        (fun h e => s.RefreshCourse now token (queries h) (.error e))
        (issue fun now jti => s.issuer.generate now jti value kind ttl) h := by
    refine meets_history_issue trivial (fun _ => trivial) (fun m jti t _ => hok _ t (by simp))
      fun m jti e hm he => ?_
    obtain rfl : m.seconds = now := hm
    obtain ⟨rfl, hnot⟩ := TokenIssuer.generate_eq_error hd he
    have hsame : queries (h ++ [⟨.clock, m⟩] ++ [⟨.identifier, jti⟩]) = queries h := by simp
    rw [hsame, hqueries]
    exact .aborted r ht fun h => hnot (hfits h)
  refine meets_bind.2 (hsigned hqueries (·.access) fun h₁ access hqueries₁ => ?_)
  have hqueries₁ := hqueries₁.trans hqueries
  refine meets_bind.2 (hsigned hqueries₁ (·.refresh) fun h₂ refresh hqueries₂ => ?_)
  have hqueries₂ := hqueries₂.trans hqueries₁
  refine meets_bind.2 (meets_history_ask trivial (fun id _ => ?_) fun e _ => ?_)
  · refine meets_pure.2 ?_
    rw [queries_append, hqueries₂]
    exact .renewed r ht _ _ id _
  · rw [queries_append, hqueries₂]
    cases e with
    | conflict what => exact .taken r ht _ _ what
    | _ => exact .notOpened r ht _ _ _ nofun

/-- **The course of a refresh**, at one time and whatever its queries are
answered. -/
theorem refresh_course (s : Service) (ctx : RequestContext) (now : Int) (token : String) :
    Meets (.history (fun _ _ => True) (ShowsTime now))
      (fun h p => s.RefreshCourse now token (queries h) (.ok p))
      (fun h e => s.RefreshCourse now token (queries h) (.error e)) (s.refresh ctx token) [] := by
  refine meets_bind.2 (meets_ofExcept.2 ⟨fun t ht => ?_, fun e he => ?_⟩)
  swap
  · refine .unreadable fun t u hrenews => ?_
    cases hrenews.decodes.symm.trans he
  refine meets_bind.2 (meets_history_now trivial ?_)
  rintro m rfl
  have hunreadable (hnone : ∀ access, s.issuer.parseRefresh m.seconds t = some access →
      s.issuer.parseEmbeddedAccess access = none) :
      s.RefreshCourse m.seconds token (queries ([] ++ [⟨.clock, m⟩]))
        (.error (.reported .invalidToken)) := by
    refine .unreadable fun t' u hrenews => ?_
    obtain rfl := Except.ok.inj (ht.symm.trans hrenews.decodes)
    obtain ⟨access, hparse, hu⟩ := hrenews.admits
    cases (hnone access hparse).symm.trans hu
  refine meets_bind.2 (meets_expect.2 ⟨fun access haccess => ?_, fun hnone => ?_⟩)
  swap
  · exact hunreadable fun access haccess => by cases hnone.symm.trans haccess
  refine meets_bind.2 (meets_expect.2 ⟨fun u hu => ?_, fun hnone => ?_⟩)
  swap
  · refine hunreadable fun access' haccess' => ?_
    rwa [← Option.some.inj (haccess.symm.trans haccess')]
  have hrenews : s.Renews m.seconds token t u := ⟨ht, access, haccess, hu⟩
  refine meets_bind.2 (meets_history_ask trivial (fun r _ => ?_) fun e _ => ?_)
  swap
  · cases e with
    | notFound what => exact .noSession hrenews what
    | _ => exact .lookupFailed hrenews _ nofun
  refine meets_bind.2 (meets_require.2 ⟨fun hvalue => ?_, fun hvalue => ?_⟩)
  swap
  · exact .otherToken hrenews r fun heq => by simp [heq] at hvalue
  obtain rfl := beq_iff_eq.1 hvalue
  refine meets_bind.2 (meets_history_now trivial fun m' hm' => ?_)
  have hm' : m'.seconds = m.seconds := hm'
  -- the token of the row is the one that was presented, and is read once more as it was
  refine meets_bind.2 (meets_expect.2 ⟨fun stored hstored => ?_, fun hnone => ?_⟩)
  swap
  · rw [hm', haccess] at hnone
    cases hnone
  rw [hm', haccess] at hstored
  obtain rfl := Option.some.inj hstored
  refine meets_bind.2 (meets_require.2 ⟨fun _ => ?_, fun hne => ?_⟩)
  swap
  · simp at hne
  refine meets_bind.2 (meets_history_ask trivial (fun _ _ => ?_) fun e _ => ?_)
  · exact openSession_course hrenews (by simp)
  · exact .notEnded r hrenews e

theorem RefreshCourse.of_yields {h : List Step} {r : Except (Failure ServiceError) TokenPair}
    (hrun : (s.refresh ctx token).run.Yields h r)
    (hclock : ∀ m : Moment, (⟨.clock, m⟩ : Step) ∈ h → m.seconds = now) :
    s.RefreshCourse now token (queries h) r := by
  have hmeets : (s.refresh ctx token).run.Meets (.history (fun _ _ => True) (ShowsTime now))
      (fun h r => s.RefreshCourse now token (queries h) r) [] :=
    Program.Meets.mono (s.refresh_course ctx now token) fun h r hr => by cases r <;> exact hr
  refine hmeets.of_yields hrun fun x hx => ?_
  obtain ⟨e, m⟩ := x
  cases e with
  | clock => exact hclock m hx
  | _ => trivial

namespace RefreshCourse

variable {l : List QueryStep} {r : Except (Failure ServiceError) TokenPair} {u : Int}
variable {e : StoreError}

/-- What cannot be read is refused. -/
theorem eq_of_not_renews (h : s.RefreshCourse now token l r)
    (hnone : ∀ t u, ¬ s.Renews now token t u) : r = .error (.reported .invalidToken) := by
  cases h with
  | unreadable => rfl
  | noSession ht | lookupFailed ht | otherToken ht => exact absurd ht (hnone _ _)
  | notEnded _ ht | aborted _ ht | taken _ ht | notOpened _ ht | renewed _ ht =>
    exact absurd ht (hnone _ _)

/-- How a lookup fails. -/
theorem eq_of_lookup_error (h : s.RefreshCourse now token l r)
    (hmem : ⟨.liveSession u, .error e⟩ ∈ l) :
    r = .error (.reported (match e with
      | .notFound _ => .invalidToken
      | e => .ofStore e)) := by
  cases h with
  | unreadable => cases hmem
  | noSession =>
    cases List.mem_singleton.1 hmem
    rfl
  | lookupFailed _ e he =>
    cases List.mem_singleton.1 hmem
    cases e with
    | notFound what => exact absurd rfl (he what)
    | _ => rfl
  | otherToken => cases List.mem_singleton.1 hmem
  | notEnded | aborted | taken | notOpened | renewed => simp at hmem

/-- A session with another token is as good as none. -/
theorem eq_of_lookup_ok (h : s.RefreshCourse now token l r) {session : Session}
    (hmem : ⟨.liveSession u, .ok session⟩ ∈ l)
    (hother : Wrapped.decodeString token ≠ .ok session.value) :
    r = .error (.reported .invalidToken) := by
  cases h with
  | unreadable => cases hmem
  | otherToken => rfl
  | noSession | lookupFailed => cases List.mem_singleton.1 hmem
  | notEnded => rfl
  | aborted session' ht | taken session' ht | notOpened session' ht | renewed session' ht =>
    obtain ⟨-, rfl⟩ : _ ∧ session = session' := by simpa using hmem
    exact absurd ht.decodes hother

/-- A session that cannot be ended is as good as none. -/
theorem eq_of_end_error (h : s.RefreshCourse now token l r) {v : String}
    (hmem : ⟨.endSession v, .error e⟩ ∈ l) : r = .error (.reported .invalidToken) := by
  cases h with
  | notEnded => rfl
  | _ => simp at hmem

/-- How an opening fails. -/
theorem eq_of_open_error (h : s.RefreshCourse now token l r) {v : String} {ttl : Int}
    (hmem : ⟨.openSession u v ttl, .error e⟩ ∈ l) :
    r = .error (.reported (match e with
      | .conflict _ => .sessionExists
      | e => .ofStore e)) := by
  cases h with
  | taken _ _ _ _ what =>
    obtain ⟨-, rfl⟩ : _ ∧ e = .conflict what := by simpa using hmem
    rfl
  | notOpened _ _ _ _ e' he =>
    obtain ⟨-, rfl⟩ : _ ∧ e = e' := by simpa using hmem
    cases e with
    | conflict what => exact absurd rfl (he what)
    | _ => rfl
  | _ => simp at hmem

/-- What a refresh never fails with. -/
theorem not_told (h : s.RefreshCourse now token l r) :
    r ≠ .error (.reported .tokensUnrelated) ∧ r ≠ .error (.reported .sessionNotFound) ∧
      r ≠ .error (.reported .accountNotFound) := by
  cases h with
  | lookupFailed _ e | notOpened _ _ _ _ e => cases e <;> simp [ServiceError.ofStore]
  | _ => simp

/-- The lookup comes first, and nothing comes of it but for the token of the
session that it finds. -/
theorem found (h : s.RefreshCourse now token l r) {before after : List QueryStep} {y : QueryStep}
    (hl : l = before ++ y :: after) (hy : ∀ u, y.query ≠ .liveSession u) :
    ∃ u session, ⟨.liveSession u, .ok session⟩ ∈ before ∧
      Wrapped.decodeString token = .ok session.value := by
  -- the first query is the lookup
  have hfirst {u : Int} {x : Except StoreError Session} {rest : List QueryStep}
      (hl : ⟨.liveSession u, x⟩ :: rest = before ++ y :: after) :
      ⟨.liveSession u, x⟩ ∈ before := by
    cases before with
    | nil =>
      cases hl
      exact absurd rfl (hy u)
    | cons z before =>
      cases hl
      exact List.mem_cons_self
  cases h with
  | unreadable => simp at hl
  | noSession | lookupFailed | otherToken =>
    have hmem := hfirst hl
    cases before <;> simp at hl hmem
  | notEnded session ht | aborted session ht | taken session ht | notOpened session ht
  | renewed session ht =>
    exact ⟨_, session, hfirst hl, ht.decodes⟩

end RefreshCourse

/-- What a failure of the store is told as, where it is told at all. -/
theorem ofStore_eq (e : StoreError) : ServiceError.ofStore e =
    if e = .deadlineExceeded then .deadlineExceeded else .storage e := by
  cases e <;> rfl

/-- **A refused refresh tells nothing about its token.** Take any text and
any replies of the store to the queries of a refresh, at one time. If the
text is no opaque form, or what it stands for is refused by the reader of
refresh tokens, or the access token in it by the reader of those, the
refresh fails with `invalidToken`. So it does if there is no live session,
if the live one has another token, and if it cannot be ended, whatever the
error. Any other failure to look the session up is the passed deadline or
the error of the store, and so is any failure to open the new session, but
for a conflict, which is `sessionExists`. It never says that the two tokens
are unrelated, or that a session or an account was not found. And it makes
no query but this lookup before the lookup has found a session with the
very token that the text stands for. -/
theorem refresh_opaque (s : Service) (ctx : RequestContext) (now : Int) (token : String)
    {h : List Step} {r : Except (Failure ServiceError) TokenPair}
    (hrun : (s.refresh ctx token).run.Yields h r)
    (hclock : ∀ m : Moment, (⟨.clock, m⟩ : Step) ∈ h → m.seconds = now) :
    (∀ e, Wrapped.decodeString token = .error e → r = .error (.reported .invalidToken)) ∧
    (∀ t, Wrapped.decodeString token = .ok t → s.issuer.parseRefresh now t = none →
      r = .error (.reported .invalidToken)) ∧
    (∀ t access, Wrapped.decodeString token = .ok t → s.issuer.parseRefresh now t = some access →
      s.issuer.parseEmbeddedAccess access = none → r = .error (.reported .invalidToken)) ∧
    (∀ u what, Got h (.liveSession u) (.error (.notFound what)) →
      r = .error (.reported .invalidToken)) ∧
    (∀ u e, Got h (.liveSession u) (.error e) → (∀ what, e ≠ .notFound what) →
      r = .error (.reported (if e = .deadlineExceeded then .deadlineExceeded else .storage e))) ∧
    (∀ u session, Got h (.liveSession u) (.ok session) →
      Wrapped.decodeString token ≠ .ok session.value → r = .error (.reported .invalidToken)) ∧
    (∀ v e, Got h (.endSession v) (.error e) → r = .error (.reported .invalidToken)) ∧
    (∀ u v ttl what, Got h (.openSession u v ttl) (.error (.conflict what)) →
      r = .error (.reported .sessionExists)) ∧
    (∀ u v ttl e, Got h (.openSession u v ttl) (.error e) → (∀ what, e ≠ .conflict what) →
      r = .error (.reported (if e = .deadlineExceeded then .deadlineExceeded else .storage e))) ∧
    (r ≠ .error (.reported .tokensUnrelated) ∧ r ≠ .error (.reported .sessionNotFound) ∧
      r ≠ .error (.reported .accountNotFound)) ∧
    ∀ h₁ ctx' q x h₂, h = h₁ ++ ⟨.query ctx' q, x⟩ :: h₂ → (∀ u, q ≠ .liveSession u) →
      ∃ u session, Got h₁ (.liveSession u) (.ok session) ∧
        Wrapped.decodeString token = .ok session.value := by
  have hcourse := RefreshCourse.of_yields hrun hclock
  refine ⟨fun e he => ?_, fun t ht hnone => ?_, fun t access ht haccess hnone => ?_,
    fun u what hgot => ?_, fun u e hgot hne => ?_, fun u session hgot => ?_,
    fun v e hgot => ?_, fun u v ttl what hgot => ?_, fun u v ttl e hgot hne => ?_,
    hcourse.not_told, fun h₁ ctx' q x h₂ hh hq => ?_⟩
  · refine hcourse.eq_of_not_renews fun t u hrenews => ?_
    cases he.symm.trans hrenews.decodes
  · refine hcourse.eq_of_not_renews fun t' u hrenews => ?_
    obtain rfl := Except.ok.inj (ht.symm.trans hrenews.decodes)
    obtain ⟨access, haccess, -⟩ := hrenews.admits
    cases hnone.symm.trans haccess
  · refine hcourse.eq_of_not_renews fun t' u hrenews => ?_
    obtain rfl := Except.ok.inj (ht.symm.trans hrenews.decodes)
    obtain ⟨access', haccess', hu⟩ := hrenews.admits
    obtain rfl := Option.some.inj (haccess.symm.trans haccess')
    cases hnone.symm.trans hu
  · exact hcourse.eq_of_lookup_error (mem_queries.2 hgot)
  · rw [hcourse.eq_of_lookup_error (mem_queries.2 hgot), ← ofStore_eq]
    cases e with
    | notFound what => exact absurd rfl (hne what)
    | _ => rfl
  · exact hcourse.eq_of_lookup_ok (mem_queries.2 hgot)
  · exact hcourse.eq_of_end_error (mem_queries.2 hgot)
  · exact hcourse.eq_of_open_error (mem_queries.2 hgot)
  · rw [hcourse.eq_of_open_error (mem_queries.2 hgot), ← ofStore_eq]
    cases e with
    | conflict what => exact absurd rfl (hne what)
    | _ => rfl
  · have hsplit : queries h = queries h₁ ++ ⟨q, x⟩ :: queries h₂ := by
      rw [hh, queries_append, queries_query_cons]
    obtain ⟨u, session, hmem, hdecodes⟩ := hcourse.found hsplit hq
    exact ⟨u, session, mem_queries.1 hmem, hdecodes⟩

/-- A store with these replies to the three queries of a refresh, at the
beginning of time. -/
def scripted (found : Except StoreError Session) (ended : Except StoreError Unit)
    (opened : Except StoreError Int) : (e : Effect) → e.Reply
  | .clock => ⟨0, 0⟩
  | .identifier => "jti"
  | .salt => .replicate 16 0
  | .deadline _ => false
  | .query _ (.liveSession _) => found
  | .query _ (.endSession _) => ended
  | .query _ (.openSession _ _ _) => opened
  | .query _ _ => .error (.io "out of order")
  | .publish _ _ _ => .ok ()

/-- A refresh token that is in order is looked up; and if its session is
found it is ended, and if it is ended another one is opened. -/
theorem exists_yields_scripted {t : String} {u : Int} (hrenews : s.Renews 0 token t u)
    (hfits : s.issuer.PairFits 0) (ctx : RequestContext) (found : Except StoreError Session)
    (ended : Except StoreError Unit) (opened : Except StoreError Int) :
    ∃ h r, (s.refresh ctx token).run.Yields h r ∧
      (∀ m : Moment, (⟨.clock, m⟩ : Step) ∈ h → m.seconds = 0) ∧
      (∃ u, Got h (.liveSession u) found) ∧
      ∀ session, found = .ok session → session.value = t → Got h (.endSession t) ended ∧
        (ended = .ok () → ∃ u v ttl, Got h (.openSession u v ttl) opened) := by
  obtain ⟨h, r, hrun, hreplies⟩ := Program.exists_yields (scripted found ended opened)
    (s.refresh ctx token).run
  have hclock : ∀ m : Moment, (⟨.clock, m⟩ : Step) ∈ h → m.seconds = 0 := fun m hm =>
    congrArg Moment.seconds (hreplies _ hm)
  refine ⟨h, r, hrun, hclock, ?_⟩
  have hcourse := RefreshCourse.of_yields hrun hclock
  have hreply {q : Query} {x : Except StoreError q.Answer} (hmem : ⟨q, x⟩ ∈ queries h) :
      ∃ ctx, x = scripted found ended opened (.query ctx q) :=
    (mem_queries.1 hmem).reply_eq hreplies
  simp only [← mem_queries]
  generalize queries h = l at hcourse hreply ⊢
  cases hcourse with
  | unreadable hnone => exact absurd hrenews (hnone _ _)
  | aborted _ _ hnot => exact absurd hfits hnot
  | noSession | lookupFailed =>
    obtain ⟨-, rfl⟩ := hreply List.mem_cons_self
    exact ⟨⟨_, List.mem_cons_self⟩, nofun⟩
  | otherToken ht r hne =>
    obtain ⟨-, rfl⟩ := hreply List.mem_cons_self
    refine ⟨⟨_, List.mem_cons_self⟩, fun session hsession hvalue => ?_⟩
    cases hsession
    rw [hvalue] at hne
    exact absurd (Except.ok.inj (hrenews.decodes.symm.trans ht.decodes)) hne
  | notEnded r ht e =>
    obtain ⟨-, rfl⟩ := hreply List.mem_cons_self
    obtain ⟨-, rfl⟩ := hreply (List.mem_cons_of_mem _ List.mem_cons_self)
    refine ⟨⟨_, List.mem_cons_self⟩, fun session hsession hvalue => ?_⟩
    cases hsession
    exact ⟨by simp [hvalue], nofun⟩
  | @taken u r ht v ttl | @notOpened u r ht v ttl | @renewed u r ht v ttl =>
    obtain ⟨-, rfl⟩ := hreply List.mem_cons_self
    obtain ⟨-, rfl⟩ := hreply (List.mem_cons_of_mem _ List.mem_cons_self)
    obtain ⟨-, rfl⟩ := hreply (List.mem_cons_of_mem _ (List.mem_cons_of_mem _ List.mem_cons_self))
    refine ⟨⟨_, List.mem_cons_self⟩, fun session hsession hvalue => ?_⟩
    cases hsession
    refine ⟨by simp [hvalue], fun _ => ⟨u, v, ttl, ?_⟩⟩
    exact List.mem_cons_of_mem _ (List.mem_cons_of_mem _ List.mem_cons_self)

/-- A refresh token that is in order, and the failures of the store that it
may come to: the lookup is late, or finds the session of another token; the
session cannot be ended; the new session is a duplicate. -/
theorem refresh_opaque_plain : ∃ token,
    (∃ h r u, (plain.refresh unhurried token).run.Yields h r ∧
      (∀ m : Moment, (⟨.clock, m⟩ : Step) ∈ h → m.seconds = 0) ∧
      Got h (.liveSession u) (.error .deadlineExceeded) ∧
      r = .error (.reported .deadlineExceeded)) ∧
    (∃ h r u session, (plain.refresh unhurried token).run.Yields h r ∧
      (∀ m : Moment, (⟨.clock, m⟩ : Step) ∈ h → m.seconds = 0) ∧
      Got h (.liveSession u) (.ok session) ∧ Wrapped.decodeString token ≠ .ok session.value ∧
      r = .error (.reported .invalidToken)) ∧
    (∃ h r v, (plain.refresh unhurried token).run.Yields h r ∧
      (∀ m : Moment, (⟨.clock, m⟩ : Step) ∈ h → m.seconds = 0) ∧
      Got h (.endSession v) (.error (.io "disk full")) ∧ r = .error (.reported .invalidToken)) ∧
    ∃ h r u v ttl, (plain.refresh unhurried token).run.Yields h r ∧
      (∀ m : Moment, (⟨.clock, m⟩ : Step) ∈ h → m.seconds = 0) ∧
      Got h (.openSession u v ttl) (.error (.conflict "duplicate")) ∧
      r = .error (.reported .sessionExists) := by
  have hfits := ready_plain.pairFits
  obtain ⟨access, haccess⟩ := TokenIssuer.exists_generate_eq_ok (j := plain.issuer) (d := .sha256)
    rfl hfits.access "jti" (.account 1) .access
  obtain ⟨refresh, hrefresh⟩ := TokenIssuer.exists_generate_eq_ok (j := plain.issuer)
    (d := .sha256) rfl hfits.refresh "jti" (.text access.token) .refresh
  have hu := ready_plain.access_of_issue (by decide) haccess
  obtain ⟨hclaims, -⟩ := ready_plain.refresh_of_issue hrefresh
  have hparse : plain.issuer.parseRefresh 0 refresh.token = some access.token :=
    TokenIssuer.parseRefresh_eq_some_iff.2 ⟨_, hclaims, by simp [plain], rfl⟩
  let token := Wrapped.encodeString refresh.token
  have hdecodes : Wrapped.decodeString token = .ok refresh.token :=
    Wrapped.decodeString_encodeString _
  have hscripted := exists_yields_scripted ⟨hdecodes, access.token, hparse, hu⟩
    hfits unhurried
  let session : Session := ⟨1, 1, refresh.token, 3600, 0, 0⟩
  refine ⟨token, ?_, ?_, ?_, ?_⟩
  · obtain ⟨h, r, hrun, hclock, ⟨u, hfound⟩, -⟩ :=
      hscripted (.error .deadlineExceeded) (.ok ()) (.ok 1)
    obtain ⟨-, -, -, -, hlookup, -⟩ := refresh_opaque plain unhurried 0 token hrun hclock
    exact ⟨h, r, u, hrun, hclock, hfound, hlookup u _ hfound nofun⟩
  · let other : Session := { session with value := refresh.token.push '.' }
    have hother : Wrapped.decodeString token ≠ .ok other.value := by
      rw [hdecodes]
      intro heq
      have hlength := congrArg String.length (Except.ok.inj heq)
      simp [other] at hlength
    obtain ⟨h, r, hrun, hclock, ⟨u, hfound⟩, -⟩ := hscripted (.ok other) (.ok ()) (.ok 1)
    obtain ⟨-, -, -, -, -, hunlike, -⟩ := refresh_opaque plain unhurried 0 token hrun hclock
    exact ⟨h, r, u, other, hrun, hclock, hfound, hother, hunlike u other hfound hother⟩
  · obtain ⟨h, r, hrun, hclock, -, hend⟩ :=
      hscripted (.ok session) (.error (.io "disk full")) (.ok 1)
    obtain ⟨hended, -⟩ := hend session rfl rfl
    obtain ⟨-, -, -, -, -, -, hunended, -⟩ := refresh_opaque plain unhurried 0 token hrun hclock
    exact ⟨h, r, _, hrun, hclock, hended, hunended _ _ hended⟩
  · obtain ⟨h, r, hrun, hclock, -, hend⟩ :=
      hscripted (.ok session) (.ok ()) (.error (.conflict "duplicate"))
    obtain ⟨u, v, ttl, hopened⟩ := (hend session rfl rfl).2 rfl
    obtain ⟨-, -, -, -, -, -, -, hconflict, -⟩ := refresh_opaque plain unhurried 0 token hrun hclock
    exact ⟨h, r, u, v, ttl, hrun, hclock, hopened, hconflict u v ttl _ hopened⟩

end Service

end SignOn
