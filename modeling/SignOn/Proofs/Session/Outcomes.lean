import SignOn.Proofs.Service.History
import SignOn.Proofs.Session.Changes
/-!
# What outcomes say about sessions

Operations are carried out one after another, in calm conditions, on a
store without rows. What each has done to the live sessions can be told
from what it answered, `Service.perform_calm`. So the history says which
sessions are live: `Service.Sequential.holds_iff`.
-/

namespace SignOn

namespace Outcome

variable (s : Service)

/-- A pair of tokens was given out for an account: the one that the access
token in it admits. -/
def Grants (o : Outcome) (u : Int) (p : TokenPair) : Prop :=
  match o.operation with
  | .login _ _ | .refresh _ =>
    o.result = .ok (.pair p) ∧ s.issuer.parseEmbeddedAccess p.accessToken = some u
  | _ => False

/-- A logout of an account has succeeded: it was given an access token
that admits the account. -/
def LogsOut (o : Outcome) (u : Int) : Prop :=
  match o.operation with
  | .logout token => (∃ a, o.result = .ok a) ∧ s.issuer.parseEmbeddedAccess token = some u
  | _ => False

/-- A session of an account with a token was opened, until some time. -/
def Opens (u : Int) (v : String) (ttl : Int) (o : Outcome) : Prop :=
  ∃ p, o.Grants s u p ∧ p.refreshToken = Wrapped.encodeString v ∧
    ttl = o.time + s.issuer.refreshTtl

/-- The session that an account had is over. -/
def Closes (u : Int) (o : Outcome) : Prop :=
  (∃ p, o.Grants s u p) ∨ o.LogsOut s u

variable {s} {op : Operation} {now u : Int} {p p' : TokenPair} {e : Failure ServiceError}

theorem not_grants_error : ¬ (Outcome.mk op now (.error e)).Grants s u p := by
  intro h
  cases op with
  | login email password => cases h.1
  | refresh token => cases h.1
  | _ => exact h

theorem not_logsOut_error : ¬ (Outcome.mk op now (.error e)).LogsOut s u := by
  intro h
  cases op with
  | logout token =>
    obtain ⟨⟨a, ha⟩, -⟩ := h
    cases ha
  | _ => exact h

/-- An operation that answers with a pair gives out this one. -/
theorem grants_pair_iff (h : (∃ email password, op = .login email password) ∨
    ∃ token, op = .refresh token) : (Outcome.mk op now (.ok (.pair p))).Grants s u p' ↔
      p' = p ∧ s.issuer.parseEmbeddedAccess p.accessToken = some u := by
  have hpair : ((.ok (.pair p) : Except (Failure ServiceError) Answer) = .ok (.pair p') ∧
      s.issuer.parseEmbeddedAccess p'.accessToken = some u) ↔
        p' = p ∧ s.issuer.parseEmbeddedAccess p.accessToken = some u := by
    constructor
    · rintro ⟨⟨⟩, hu⟩
      exact ⟨rfl, hu⟩
    · rintro ⟨rfl, hu⟩
      exact ⟨rfl, hu⟩
  obtain ⟨email, password, rfl⟩ | ⟨token, rfl⟩ := h
  · exact hpair
  · exact hpair

end Outcome

namespace Service

open Procedure

variable {s : Service} {now : Int} {σ : Scene} {before after : Store}

/-! ## What an outcome says about the sessions -/

/-- Beyond its time, what an outcome opens is held, and what was held
before and it does not close. -/
structure Accounts (s : Service) (o : Outcome) (before after : Store) : Prop where
  holds_iff : ∀ u v ttl, o.time < ttl →
    (after.Holds u v ttl ↔ o.Opens s u v ttl ∨ before.Holds u v ttl ∧ ¬ o.Closes s u)
  wrapped : ∀ u p, o.Grants s u p → ∃ v, p.refreshToken = Wrapped.encodeString v

variable {o : Outcome}

theorem accounts_of_opensPair {p : TokenPair} (hlogsOut : ∀ u, ¬ o.LogsOut s u)
    (hgrants : ∀ u p', o.Grants s u p' ↔
      p' = p ∧ s.issuer.parseEmbeddedAccess p.accessToken = some u)
    (h : s.OpensPair o.time p before after) : s.Accounts o before after := by
  obtain ⟨u, v, hu, hp, hopened⟩ := h
  refine ⟨fun u' v' ttl' hlt => ?_, fun u' p' hgrant => ?_⟩
  swap
  · obtain ⟨rfl, -⟩ := (hgrants u' p').1 hgrant
    exact ⟨v, hp⟩
  have hcloses : o.Closes s u' ↔ u' = u := by
    simp only [Outcome.Closes, hgrants, hlogsOut, or_false, exists_eq_left, hu, Option.some.injEq]
    exact eq_comm
  rw [hopened u' v' ttl' hlt, hcloses]
  split
  · next heq =>
    subst heq
    constructor
    · rintro ⟨rfl, rfl⟩
      exact .inl ⟨p, (hgrants u' p).2 ⟨rfl, hu⟩, hp, rfl⟩
    · rintro (⟨p', hgrant, hp', rfl⟩ | ⟨-, hne⟩)
      · -- the pair tells the token of the session, as no two are wrapped alike
        obtain ⟨rfl, -⟩ := (hgrants u' p').1 hgrant
        exact ⟨Wrapped.encodeString_inj (hp'.symm.trans hp), rfl⟩
      · exact absurd rfl hne
  · next hne =>
    constructor
    · exact fun hholds => .inr ⟨hholds, hne⟩
    · rintro (⟨p', hgrant, -⟩ | ⟨hholds, -⟩)
      · obtain ⟨-, hu'⟩ := (hgrants u' p').1 hgrant
        exact absurd (Option.some.inj (hu'.symm.trans hu)) hne
      · exact hholds

theorem accounts_of_endedFor {u : Int} (hgrants : ∀ u p, ¬ o.Grants s u p)
    (hlogsOut : ∀ u', o.LogsOut s u' ↔ u' = u) (h : EndedFor o.time u before after) :
    s.Accounts o before after := by
  refine ⟨fun u' v ttl hlt => ?_, fun u' p hgrant => absurd hgrant (hgrants u' p)⟩
  rw [h u' v ttl hlt]
  simp [Outcome.Opens, Outcome.Closes, hgrants, hlogsOut, and_comm]

theorem accounts_of_sameHeld (hgrants : ∀ u p, ¬ o.Grants s u p) (hlogsOut : ∀ u, ¬ o.LogsOut s u)
    (h : SameHeld o.time before after) : s.Accounts o before after := by
  refine ⟨fun u v ttl hlt => ?_, fun u p hgrant => absurd hgrant (hgrants u p)⟩
  rw [h u v ttl hlt]
  simp [Outcome.Opens, Outcome.Closes, hgrants, hlogsOut]

/-- **What an operation does to the sessions can be told from its
outcome.** -/
theorem perform_calm (hσ : s.Consistent now σ) (hj : s.issuer.Ready now)
    (hfits : Fits64 σ.store.lastAccountId) (ctx : RequestContext) (op : Operation) :
    (s.perform ctx op).run.Meets (.calm now)
      (fun σ' r => s.Consistent now σ' ∧ s.Accounts ⟨op, now, r⟩ σ.store σ'.store) σ := by
  have hprocedure : Meets (.calm now)
      (fun σ' a => s.Consistent now σ' ∧ s.Accounts ⟨op, now, .ok a⟩ σ.store σ'.store)
      (fun σ' e => s.Consistent now σ' ∧ s.Accounts ⟨op, now, .error e⟩ σ.store σ'.store)
      (s.perform ctx op) σ := by
    -- whoever fails has changed nothing, and says nothing of sessions
    have hfailed (e : Failure ServiceError) : s.Accounts ⟨op, now, .error e⟩ σ.store σ.store :=
      accounts_of_sameHeld (fun _ _ => Outcome.not_grants_error)
        (fun _ => Outcome.not_logsOut_error) (sameHeld_of_eq rfl)
    cases op with
    | login email password =>
      refine meets_map.2 ((login_calm hσ hj hfits).mono ?_ ?_)
      · rintro σ' p ⟨-, hσ', hp, -⟩
        exact ⟨hσ', accounts_of_opensPair (fun _ h => h)
          (fun _ _ => Outcome.grants_pair_iff (.inl ⟨email, password, rfl⟩)) hp⟩
      · rintro σ' e ⟨-, rfl⟩
        exact ⟨hσ, hfailed e⟩
    | refresh token =>
      refine meets_map.2 ((refresh_calm hσ hj hfits).mono ?_ ?_)
      · rintro σ' p ⟨-, hσ', hp⟩
        exact ⟨hσ', accounts_of_opensPair (fun _ h => h)
          (fun _ _ => Outcome.grants_pair_iff (.inr ⟨token, rfl⟩)) hp⟩
      · rintro σ' e ⟨-, -, rfl⟩
        exact ⟨hσ, hfailed e⟩
    | logout token =>
      refine meets_map.2 ((logout_calm hσ).mono ?_ ?_)
      · rintro σ' p ⟨hσ', u, hu, hended⟩
        refine ⟨hσ', accounts_of_endedFor (fun _ _ h => h) (fun u' => ?_) hended⟩
        show (∃ a, _ = Except.ok a) ∧ s.issuer.parseEmbeddedAccess token = some u' ↔ u' = u
        rw [hu, Option.some.injEq]
        exact ⟨fun h => h.2.symm, fun h => ⟨⟨_, rfl⟩, h.symm⟩⟩
      · rintro σ' e rfl
        exact ⟨hσ, hfailed e⟩
    | purge =>
      refine meets_map.2 ((purge_calm hσ).mono ?_ fun _ _ he => he.elim)
      rintro σ' n ⟨hσ', hsame⟩
      exact ⟨hσ', accounts_of_sameHeld (fun _ _ h => h) (fun _ h => h) hsame⟩
    | _ =>
      refine (quiet_calm hσ (s.quiet_perform ctx rfl)).mono ?_ ?_ <;>
      · rintro σ' _ ⟨hσ', hsame⟩
        exact ⟨hσ', accounts_of_sameHeld (fun _ _ h => h) (fun _ h => h) hsame⟩
  exact Program.Meets.mono hprocedure fun σ' r hr => by cases r <;> exact hr

/-! ## What the history says about the sessions -/

variable {w : World} {es : List Errand} {e : Errand}

/-- Accounts that have 64-bit numbers in the end had them before. -/
theorem fits_of_concat (hw : w.store = .empty)
    (hfits : Fits64 (s.after w (es ++ [e])).store.lastAccountId) :
    Fits64 (s.after w es).store.lastAccountId := by
  have hzero := s.lastAccountId_le_after w es
  have hids := Program.lastAccountId_le_run e.draws (s.perform e.ctx e.operation).run 0
    (s.after w es)
  change _ ≤ (s.carryOut (s.after w es) e).world.store.lastAccountId at hids
  rw [← after_concat] at hids
  rw [hw] at hzero
  change 0 ≤ _ at hzero
  unfold Fits64 at hfits ⊢
  omega

/-- **The history says which sessions are held**: those that were opened
and not closed since. -/
theorem Sequential.holds_iff (h : s.Sequential w es) (hw : w.store = .empty)
    (hfits : Fits64 (s.after w es).store.lastAccountId) (hnow : ∀ e ∈ es, e.time ≤ now) :
    s.Consistent now ((s.after w es).scene (s.drawnBy w es)) ∧
      (∀ u v ttl, now < ttl → ((s.after w es).store.Holds u v ttl ↔
        Standing (Outcome.Opens s u v ttl) (Outcome.Closes s u) (s.history w es))) ∧
      ∀ o ∈ s.history w es, ∀ u p, o.Grants s u p →
        ∃ v, p.refreshToken = Wrapped.encodeString v := by
  induction es using List.reverseRecOn generalizing now with
  | nil =>
    have hempty : ((s.after w []).scene []).store = .empty := hw
    have hnone : ((s.after w []).scene []).store.sessions = [] := congrArg Store.sessions hw
    refine ⟨⟨?_, Store.sessionsInOrder_of_nil hnone, ?_, Store.oneLive_of_nil hnone⟩,
      fun u v ttl _ => iff_of_false ?_ not_standing_nil, by simp [history]⟩
    · show ((s.after w []).scene []).store.AccountsInOrder
      rw [hempty]
      exact Store.accountsInOrder_empty
    · show ∀ r ∈ ((s.after w []).scene []).store.sessions, _
      rw [hnone]
      simp
    · show ¬ ((s.after w []).scene []).store.Holds u v ttl
      simp [Store.Holds, hnone]
  | append_singleton es e ih =>
    -- the hypothesis is used at the time of the last operation, not after it
    have hle := hnow e (by simp)
    have hfits' := fits_of_concat hw hfits
    obtain ⟨hconsistent, hholds, hwrapped⟩ := ih h.of_concat hfits' h.time_le
    obtain ⟨hafter, haccounts⟩ := h.carryOut_of_meets
      (perform_calm hconsistent (h.ready e (by simp)) hfits' e.ctx e.operation)
    rw [history_concat]
    refine ⟨hafter.mono hle, fun u v ttl hlt => ?_, fun o ho => ?_⟩
    · have hlt' : e.time < ttl := by omega
      rw [standing_concat, ← hholds u v ttl hlt']
      exact haccounts.holds_iff u v ttl hlt'
    · rcases List.mem_append.1 ho with ho | ho
      · exact hwrapped o ho
      · rw [List.mem_singleton.1 ho]
        exact haccounts.wrapped

end Service

end SignOn
