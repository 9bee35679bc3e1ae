import SignOn.Proofs.Token.Signed
/-!
# What an issuer accepts

Here a token is any text, whoever has written it. The payload of a token
is read twice, once for its contents and once for the registered claims,
and either reading finds the same expiry: `Claims.exp_nonneg_of_registeredOk`.
So an accepted token has an expiry of its own that is not negative, and
time decides by this expiry alone: `TokenIssuer.accepted_until_expiry`.
-/

namespace SignOn

/-! ## The two readings of a payload -/

namespace Json

/-- The value of a name in an object does not depend on the names that are
asked for with it. -/
theorem field_of_fields {members : List (Option String × Json)} {declared : List String}
    {values : List (Option Json)} (h : fields declared (.object members) = some values) {i : Nat}
    {name : String} (hname : declared[i]? = some name) : field members name = values[i]? := by
  have hvalues : declared.mapM (field members) = some values := by
    simp only [fields] at h
    split at h
    · cases h
    · exact h
  clear h
  induction declared generalizing values i with
  | nil => simp at hname
  | cons first declared ih =>
    simp only [List.mapM_cons, Option.bind_eq_bind, Option.bind_eq_some_iff, Option.pure_def,
      Option.some.injEq] at hvalues
    obtain ⟨v, hv, rest, hrest, rfl⟩ := hvalues
    cases i with
    | zero =>
      obtain rfl : first = name := by simpa using hname
      simpa using hv
    | succ i => simpa using ih (by simpa using hname) hrest

end Json

namespace Claims

variable {payload : Json} {c : Claims}

/-- What a payload has to be for its contents to be read. -/
theorem exists_fields_of_ofJson? (hc : ofJson? payload = some c) :
    ∃ jti exp iat kind value,
      payload.fields fieldNames = some [some jti, iat, some exp, kind, value] ∧
      jti.asString = some c.jti ∧ exp.asInt64 = some c.exp := by
  simp only [ofJson?, Option.bind_eq_bind, Option.bind_eq_some_iff] at hc
  obtain ⟨values, hvalues, hc⟩ := hc
  split at hc
  · next jti iat exp kind value =>
    simp only [Option.bind_eq_some_iff] at hc
    obtain ⟨j, hjti, _, _, e, hexp, _, _, _, _, hc⟩ := hc
    cases hc
    cases jti with
    | none => cases hjti
    | some jti =>
      cases exp with
      | none => cases hexp
      | some exp => exact ⟨jti, exp, iat, kind, value, hvalues, hjti, hexp⟩
  · cases hc

theorem exists_fields_of_registeredOk (hok : Signed.registeredOk payload = true) :
    ∃ n nbf sub iss aud, payload.fields Signed.registeredNames =
      some [some (.whole n), nbf, sub, iss, aud] ∧ 0 ≤ n := by
  unfold Signed.registeredOk at hok
  split at hok
  · next exp nbf sub iss aud hfields =>
    obtain ⟨hexp, -⟩ := Bool.and_eq_true_iff.1 hok
    split at hexp
    · next n => exact ⟨n, nbf, sub, iss, aud, hfields, of_decide_eq_true hexp⟩
    · cases hexp
  · cases hok

/-- **The two readings find one expiry**: where the registered claims are
in order, the expiry in the contents is not negative. -/
theorem exp_nonneg_of_registeredOk (hc : ofJson? payload = some c)
    (hok : Signed.registeredOk payload = true) : 0 ≤ c.exp := by
  obtain ⟨jti, exp, iat, kind, value, hfields, hjti, hexp⟩ := exists_fields_of_ofJson? hc
  obtain ⟨n, nbf, sub, iss, aud, hregistered, hn⟩ := exists_fields_of_registeredOk hok
  cases payload with
  | object members =>
    -- both readings ask for the member by its name
    have hmember : Json.field members "exp" = some (some exp) :=
      Json.field_of_fields hfields (i := 2) rfl
    have hmember' : Json.field members "exp" = some (some (.whole n)) :=
      Json.field_of_fields hregistered (i := 0) rfl
    obtain rfl : exp = .whole n :=
      Option.some.inj (Option.some.inj (hmember.symm.trans hmember'))
    rw [Json.eq_of_asInt64_whole hexp]
    exact hn
  | list items =>
    -- the first item would be the identifier for one reading and the expiry for the other
    simp only [Json.fields] at hfields hregistered
    split at hfields
    · split at hregistered
      · obtain rfl : jti = .whole n := by
          have heq := hfields.symm.trans hregistered
          simp only [Option.some.injEq, List.cons.injEq] at heq
          exact heq.1
        cases hjti
      · cases hregistered
    · cases hfields
  | _ => cases hfields

end Claims

/-! ## Acceptance -/

/-- What is opened has an expiry that is not negative. -/
theorem Signed.exp_nonneg_of_open? {a : Algorithm} {d : Digest} {secret : List UInt8}
    {token : String} {c : Claims} (h : open? a d secret token = some c) : 0 ≤ c.exp := by
  simp only [open?, Option.bind_eq_bind, Option.bind_eq_some_iff] at h
  obtain ⟨_, _, _, _, _, _, _, _, _, _, _, _, _, _, value, -, c', hc, _, hguard, heq⟩ := h
  cases heq
  by_cases hok : registeredOk value = true
  · exact Claims.exp_nonneg_of_registeredOk hc hok
  · simp [hok] at hguard

namespace TokenIssuer

variable {j : TokenIssuer} {token : String} {kind kind' : TokenKind} {c : Claims}

theorem exp_nonneg_of_claims? (h : j.claims? token kind = some c) : 0 ≤ c.exp := by
  obtain ⟨⟨d, -, hopen⟩, -⟩ := claims?_eq_some_iff.1 h
  exact Signed.exp_nonneg_of_open? hopen

/-- A text is accepted for one kind. -/
theorem claims?_eq_none_of_ne (h : j.claims? token kind = some c) (hne : kind' ≠ kind) :
    j.claims? token kind' = none := by
  refine Option.eq_none_iff_forall_ne_some.2 fun c' h' => hne ?_
  obtain ⟨⟨d, hd, hopen⟩, hkind⟩ := claims?_eq_some_iff.1 h
  obtain ⟨⟨d', hd', hopen'⟩, hkind'⟩ := claims?_eq_some_iff.1 h'
  obtain rfl := Option.some.inj (hd.symm.trans hd')
  obtain rfl := Option.some.inj (hopen.symm.trans hopen')
  exact hkind'.symm.trans hkind

/-- Time decides by the expiry alone who is admitted, too. -/
theorem parseAccount_eq_of_claims? {id : Int} (h : j.claims? token kind = some c)
    (hvalue : c.value = .account id) (now : Int) :
    j.parseAccount now token kind = if now ≤ c.exp then some id else none := by
  rw [parseAccount, parse_eq_of_claims? h, hvalue]
  by_cases hle : now ≤ c.exp
  · simp [hle, TokenValue.accountId?]
  · simp [hle]

/-- A text of another kind is read as nothing. -/
theorem parseAccount_eq_none (h : j.claims? token kind = none) (now : Int) :
    j.parseAccount now token kind = none := by
  rw [parseAccount, parse_eq_none h]
  rfl

theorem parseRefresh_eq_none (h : j.claims? token .refresh = none) (now : Int) :
    j.parseRefresh now token = none := by
  rw [parseRefresh, parse_eq_none h]
  rfl

/-- **An access token that may have expired** is one that would be accepted
at the beginning of time. -/
theorem parseEmbeddedAccess_eq (j : TokenIssuer) (token : String) :
    j.parseEmbeddedAccess token = j.parseAccess 0 token := by
  rw [parseEmbeddedAccess, parseAccess, parseAccount]
  cases h : j.claims? token .access with
  | none =>
    rw [parse_eq_none h]
    rfl
  | some c =>
    rw [parse_eq_of_claims? h, if_pos (exp_nonneg_of_claims? h)]
    rfl

/-- **A text is accepted for one kind, until one time**, whoever has written
it. No two readers of different kinds ever accept it. The reader that
accepts it finds one payload at all times up to an expiry, which is not
negative, and nothing later. The reader of access tokens inside refresh
tokens takes no time: it finds what the reader of access tokens finds at
time 0, and so exactly the accounts that the latter finds at some time. All
that it admits beyond that are access tokens that have expired. And no
access token, expired or not, is accepted as a refresh token, or as one
that confirms an address or resets a password. -/
theorem accepted_until_expiry (j : TokenIssuer) (token : String) :
    (∀ kind kind' now now' v v', j.parse now token kind = some v →
      j.parse now' token kind' = some v' → kind = kind') ∧
    (∀ kind now v, j.parse now token kind = some v →
      ∃ exp, 0 ≤ exp ∧ ∀ now', j.parse now' token kind = if now' ≤ exp then some v else none) ∧
    j.parseEmbeddedAccess token = j.parseAccess 0 token ∧
    (∀ id, j.parseEmbeddedAccess token = some id ↔
      ∃ now, 0 ≤ now ∧ j.parseAccess now token = some id) ∧
    ∀ id, j.parseEmbeddedAccess token = some id →
      (∃ exp, 0 ≤ exp ∧ ∀ now, j.parseAccess now token = if now ≤ exp then some id else none) ∧
      ∀ now, j.parseRefresh now token = none ∧
        ∀ kind ≠ .access, j.parseAccount now token kind = none := by
  have hembedded {id : Int} (h : j.parseEmbeddedAccess token = some id) :
      ∃ c, j.claims? token .access = some c ∧ c.value = .account id :=
    parseEmbeddedAccess_eq_some_iff.1 h
  refine ⟨fun kind kind' now now' v v' h h' => ?_, fun kind now v h => ?_,
    parseEmbeddedAccess_eq j token, fun id => ⟨fun h => ?_, ?_⟩, fun id h => ⟨?_, fun now => ?_⟩⟩
  · obtain ⟨c, hc, -⟩ := parse_eq_some_iff.1 h
    obtain ⟨c', hc', -⟩ := parse_eq_some_iff.1 h'
    by_contra hne
    cases (claims?_eq_none_of_ne hc' hne).symm.trans hc
  · obtain ⟨c, hc, -, rfl⟩ := parse_eq_some_iff.1 h
    exact ⟨c.exp, exp_nonneg_of_claims? hc, parse_eq_of_claims? hc⟩
  · exact ⟨0, Int.le_refl 0, parseEmbeddedAccess_eq j token ▸ h⟩
  · rintro ⟨now, -, h⟩
    obtain ⟨c, hc, -, hvalue⟩ := parseAccount_eq_some_iff.1 h
    exact parseEmbeddedAccess_eq_some_iff.2 ⟨c, hc, hvalue⟩
  · obtain ⟨c, hc, hvalue⟩ := hembedded h
    exact ⟨c.exp, exp_nonneg_of_claims? hc, parseAccount_eq_of_claims? hc hvalue⟩
  · obtain ⟨c, hc, -⟩ := hembedded h
    exact ⟨parseRefresh_eq_none (claims?_eq_none_of_ne hc (by decide)) now,
      fun kind hne => parseAccount_eq_none (claims?_eq_none_of_ne hc hne) now⟩

/-- An access token in its last second and after it. -/
theorem accepted_until_expiry_plain :
    let j : TokenIssuer := ⟨[1, 2, 3], .hs256, 60, 3600, 60, 60⟩
    ∃ t, j.issueAccess 100 "jti" 7 = .ok t ∧ j.parseAccess 160 t.token = some 7 ∧
      j.parseAccess 161 t.token = none ∧ j.parseEmbeddedAccess t.token = some 7 ∧
      (∃ now, 0 ≤ now ∧ j.parseAccess now t.token = some 7) ∧
      ∀ now, j.parseRefresh now t.token = none := by
  intro j
  have hfits : Fits64 (100 + j.accessTtl) := by decide
  obtain ⟨t, ht⟩ := exists_generate_eq_ok (j := j) (d := .sha256) rfl hfits "jti" (.account 7)
    .access
  have hvalue : ∀ id, (TokenValue.account 7).accountId? = some id → Fits64 id := by
    rintro _ ⟨⟩
    decide
  obtain ⟨hclaims, -⟩ := claims?_of_generate ht (by decide) (by decide) hvalue
  have hparse := parseAccount_eq_of_claims? hclaims rfl
  obtain ⟨-, -, -, hiff, hother⟩ := accepted_until_expiry j t.token
  have hembedded : j.parseEmbeddedAccess t.token = some 7 :=
    parseEmbeddedAccess_eq_some_iff.2 ⟨_, hclaims, rfl⟩
  exact ⟨t, ht, (hparse 160).trans (by decide), (hparse 161).trans (by decide), hembedded,
    (hiff 7).1 hembedded, fun now => ((hother 7 hembedded).2 now).1⟩

end TokenIssuer

end SignOn
