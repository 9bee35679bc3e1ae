import SignOn.Proofs.Session.Admission
/-!
# When a refresh token can be redeemed

Operations are carried out one after another, in calm conditions, on a
store without rows. What they answered says exactly which refresh tokens
can be redeemed: the last one that was given out for each account, until
it expires or a logout of the account succeeds.
-/

namespace SignOn

namespace Service

open Procedure

variable {s : Service} {now : Int} {σ : Scene}
variable {w : World} {es : List Errand} {e : Errand}

/-- **A refresh succeeds exactly if its token is that of a live
session.** -/
theorem perform_refresh_calm (hσ : s.Consistent now σ) (hj : s.issuer.Ready now)
    (hfits : Fits64 σ.store.lastAccountId) (ctx : RequestContext) (token : String) :
    (s.perform ctx (.refresh token)).run.Meets (.calm now)
      (fun _ r => (LiveToken σ.store now token ∧ ∃ a, r = .ok a) ∨
        (¬ LiveToken σ.store now token ∧ r = .error (.reported .invalidToken))) σ := by
  have hprocedure : Meets (.calm now) (fun _ _ => LiveToken σ.store now token)
      (fun _ e => ¬ LiveToken σ.store now token ∧ e = .reported .invalidToken)
      (s.perform ctx (.refresh token)) σ :=
    meets_map.2 ((refresh_calm hσ hj hfits).mono (fun _ _ hp => hp.1)
      fun _ _ he => ⟨he.1, he.2.1⟩)
  refine Program.Meets.mono hprocedure fun _ r hr => ?_
  cases r with
  | ok a => exact .inl ⟨hr, a, rfl⟩
  | error e => exact .inr ⟨hr.1, congrArg Except.error hr.2⟩

/-- The tokens of live sessions are the ones that the history gives. -/
theorem Sequential.liveToken_iff (h : s.Sequential w (es ++ [e])) (hw : w.store = .empty)
    (hfits : Fits64 (s.after w es).store.lastAccountId) {token : String} :
    LiveToken (s.after w es).store e.time token ↔
      ∃ before o after u p, s.history w es = before ++ o :: after ∧ o.Grants s u p ∧
        (∀ o' ∈ after, (∀ p', ¬ o'.Grants s u p') ∧ ¬ o'.LogsOut s u) ∧
        token = p.refreshToken ∧ e.time < o.time + s.issuer.refreshTtl := by
  obtain ⟨-, hholds, hwrapped⟩ := h.of_concat.holds_iff hw hfits h.time_le
  constructor
  · rintro ⟨r, hr, hdecode, hlive⟩
    obtain ⟨before, o, after, heq, ⟨p, hgrant, hp, httl⟩, hafter⟩ :=
      (hholds r.accountId r.value r.ttl hlive).1 ⟨r, hr, rfl, rfl, rfl⟩
    refine ⟨before, o, after, r.accountId, p, heq, hgrant, fun o' ho' => ?_, ?_, httl ▸ hlive⟩
    · have hopen := hafter o' ho'
      exact ⟨fun p' hp' => hopen (.inl ⟨p', hp'⟩), fun hout => hopen (.inr hout)⟩
    · rw [Wrapped.decodeString_eq_ok_iff.1 hdecode, hp]
  · rintro ⟨before, o, after, u, p, heq, hgrant, hafter, rfl, hlt⟩
    obtain ⟨v, hp⟩ := hwrapped o (by simp [heq]) u p hgrant
    -- the session stands in the history, and so the store holds it
    have hstanding : Standing (Outcome.Opens s u v (o.time + s.issuer.refreshTtl))
        (Outcome.Closes s u) (s.history w es) := by
      refine ⟨before, o, after, heq, ⟨p, hgrant, hp, rfl⟩, fun o' ho' hcloses => ?_⟩
      rcases hcloses with ⟨p', hp'⟩ | hout
      · exact (hafter o' ho').1 p' hp'
      · exact (hafter o' ho').2 hout
    obtain ⟨r, hr, -, rfl, httl⟩ := (hholds u v _ hlt).2 hstanding
    exact ⟨r, hr, Wrapped.decodeString_eq_ok_iff.2 hp, httl ▸ hlt⟩

/-- **When a refresh token can be redeemed.** Operations are carried out
one after another on a store without rows, in calm conditions: no fault
and no deadline is met, the clock is read at one time by each operation
and does not go back, no identifier is drawn twice, tokens are signed
with a shared secret, lifetimes are positive and expiries, like the
accounts, have 64-bit numbers. The last one is a refresh. It succeeds
exactly if its token is the refresh token of the last pair that was given
out for some account, at a time not yet a lifetime ago, and no logout of
the account has succeeded since. Otherwise it fails with
`invalidToken`. -/
theorem refresh_succeeds_iff (s : Service) (w : World) (hw : w.store = .empty) (es : List Errand)
    (e : Errand) (token : String) (hop : e.operation = .refresh token)
    (h : s.Sequential w (es ++ [e])) (hfits : Fits64 (s.after w es).store.lastAccountId) :
    ((∃ a, (s.carryOut (s.after w es) e).result = .ok a) ↔
      ∃ before o after u p, s.history w es = before ++ o :: after ∧ o.Grants s u p ∧
        (∀ o' ∈ after, (∀ p', ¬ o'.Grants s u p') ∧ ¬ o'.LogsOut s u) ∧
        token = p.refreshToken ∧ e.time < o.time + s.issuer.refreshTtl) ∧
    ((¬ ∃ a, (s.carryOut (s.after w es) e).result = .ok a) →
      (s.carryOut (s.after w es) e).result = .error (.reported .invalidToken)) := by
  have hconsistent := (h.of_concat.holds_iff hw hfits h.time_le).1
  have hmeets := perform_refresh_calm hconsistent (h.ready e (by simp)) hfits e.ctx token
  rw [← hop] at hmeets
  rw [← h.liveToken_iff hw hfits]
  rcases h.carryOut_of_meets hmeets with ⟨hlive, a, ha⟩ | ⟨hdead, herror⟩
  · exact ⟨⟨fun _ => hlive, fun _ => ⟨a, ha⟩⟩, fun hnot => absurd ⟨a, ha⟩ hnot⟩
  · refine ⟨⟨?_, fun hlive => absurd hlive hdead⟩, fun _ => herror⟩
    rintro ⟨a, ha⟩
    cases herror.symm.trans ha

/-- The token of a session that was just opened. -/
theorem refresh_succeeds_plain : ∃ es e token, plain.Sequential {} (es ++ [e]) ∧
    e.operation = .refresh token ∧ Fits64 (plain.after {} es).store.lastAccountId ∧
    ∃ a, (plain.carryOut (plain.after {} es) e).result = .ok a := by
  obtain ⟨es, token, hes, hnow, hfits, hlive⟩ := exists_session_plain
  obtain ⟨draws, h⟩ := hes.exists_concat (.refresh token) unhurried rfl
    (fun e he => Int.le_of_eq (hnow e he)) ready_plain
  refine ⟨es, _, token, h, rfl, hfits, ?_⟩
  exact (refresh_succeeds_iff plain {} rfl es _ token rfl h hfits).1.2
    ((h.liveToken_iff rfl hfits).1 hlive)

end Service

end SignOn
