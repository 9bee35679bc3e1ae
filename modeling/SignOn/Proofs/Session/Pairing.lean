import SignOn.Proofs.Service.InTurn
import SignOn.Proofs.Session.Admission
import SignOn.Proofs.Session.Spent
/-!
# The pairing invariant

What every row of the table of sessions says, in any state that the
service can get into: it belongs to a confirmed account, its token
carries an access token of that same account, and together they are a
pair that was given out.

No operation checks this. A login looks at the account long before it
opens the session, and a refresh does not look at the account at all; it
relies on the row that it replaces. So the rows are traced back along the
run, which is `Service.Ledger`.
-/

namespace SignOn

namespace Service

/-- **Every session is paired.** After any turns, of operations that were
started on a store without rows, and whatever failed on the way: the
account of a session is there and its address is confirmed; the token of
the session is a signed refresh token whose text is a signed access token
for that very account; the session ends no later than its token expires,
and not earlier either unless some step has ended it while it was live;
and a login or a refresh that is about the account is done and has
answered with the pair. -/
theorem sessions_paired (s : Service) (w : World) (hw : w.store = .empty)
    (requests : List Request) (turns : List Turn) :
    ∀ r ∈ ((s.start w requests).run turns).world.store.sessions,
      (∃ a ∈ ((s.start w requests).run turns).world.store.accounts,
        a.id = r.accountId ∧ a.emailConfirmed = true) ∧
      ∃ access c a,
        (s.issuer.Signs r.value c ∧ c.kind = .refresh ∧ c.value = .text access) ∧
        (s.issuer.Signs access a ∧ a.kind = .access ∧ a.value = .account r.accountId) ∧
        (r.ttl ≤ c.exp ∧ (r.ttl = c.exp ∨
          ∃ t ∈ (s.start w requests).trace turns, t.Expires r.accountId r.value)) ∧
        ∃ (i : Nat) (request : Request), requests[i]? = some request ∧
          ((∃ email password, request.operation = .login email password) ∨
            ∃ token, request.operation = .refresh token) ∧
          s.sessionOwner? ((s.start w requests).run turns).world.store request.operation =
            some r.accountId ∧
          ((s.start w requests).run turns).programs[i]? =
            some (.done (.ok (.pair ⟨access, Wrapped.encodeString r.value⟩))) := by
  intro r hr
  obtain ⟨hconduct, hledger, -⟩ := s.sound_run hw requests turns
  -- back to the step that opened the session, and from its program to the pair
  obtain ⟨hconfirmed, t, ht, exp, id, -, hopens, -, hle, hexp⟩ := hledger.rows r hr
  obtain ⟨request, p, hrequest, hdone, hmay, ⟨jti, -, ⟨iat, hrefresh⟩, a, haccess, hkind, hvalue⟩,
    hp⟩ := hconduct.done_of_opens ht hopens
  refine ⟨hconfirmed, p.accessToken, _, a, ⟨hrefresh, rfl, rfl⟩, ⟨haccess, hkind, hvalue⟩,
    ⟨hle, hexp⟩, t.program, request, hrequest, hmay.login_or_refresh,
    hledger.sessionOwner?_eq hmay.1, ?_⟩
  rw [← hp]
  exact hdone

/-- A session is there, in some run, and is paired. -/
theorem session_paired_plain : ∃ requests turns,
    ∃ r ∈ ((plain.start {} requests).run turns).world.store.sessions,
      ∃ (i : Nat) (p : TokenPair),
        ((plain.start {} requests).run turns).programs[i]? = some (.done (.ok (.pair p))) ∧
        p.refreshToken = Wrapped.encodeString r.value ∧
        ∃ a, plain.issuer.Signs p.accessToken a ∧ a.value = .account r.accountId := by
  obtain ⟨es, token, hes, -, -, r, hr, -⟩ := exists_session_plain
  obtain ⟨turns, hturns⟩ := hes.exists_inTurn (List.prefix_refl _)
  rw [← hturns.world] at hr
  obtain ⟨-, access, -, a, -, ⟨haccess, -, hvalue⟩, -, i, -, -, -, -, hdone⟩ :=
    sessions_paired plain {} rfl _ turns r hr
  exact ⟨_, turns, r, hr, i, _, hdone, rfl, a, haccess, hvalue⟩

end Service

end SignOn
