import SignOn.Proofs.Config.Checked
import SignOn.Proofs.Token.Signed
/-!
# How long a token lives

A token that was generated is read back as what it was generated from, by
the reader of its own kind, up to and including the second of its expiry;
readers of other kinds and issuers with another algorithm refuse it
(`TokenIssuer.generated_token_read_back`).

The expiry is a sum in 64 bits. The judge of settings bounds lifetimes
from below only, so that the sum may leave the range: then signing is
aborted, and there is no token (`TokenIssuer.issued_token_lives`).
-/

namespace SignOn

namespace TokenIssuer

variable {j : TokenIssuer} {d : Digest}

/-! ## What a signed token is read as -/

/-- **A signed token is read back**, by the reader of its kind and until it
expires. -/
theorem Signs.parse_eq {token : String} {c : Claims} (h : j.Signs token c) (hc : c.Ranged)
    (hexp : 0 ≤ c.exp) (now : Int) (kind : TokenKind) :
    j.parse now token kind = if kind = c.kind ∧ now ≤ c.exp then some c.value else none := by
  by_cases hkind : kind = c.kind
  · subst hkind
    rw [parse_eq_of_claims? (h.claims?_eq hc hexp)]
    simp
  · rw [parse_eq_none (h.claims?_eq_none (Ne.symm hkind)), if_neg fun hread => hkind hread.1]

/-- **An issuer with another algorithm accepts nothing of it.** -/
theorem Signs.claims?_eq_none_of_algorithm {token : String} {c : Claims} (h : j.Signs token c)
    {j' : TokenIssuer} (halgorithm : j'.algorithm ≠ j.algorithm) (kind : TokenKind) :
    j'.claims? token kind = none := by
  obtain ⟨d, -, rfl⟩ := h
  rw [claims?]
  cases j'.algorithm.digest? with
  | none => rfl
  | some d' => simp [Signed.open?_sign_eq_none halgorithm.symm]

theorem parseEmbeddedAccess_eq_none {token : String} (h : j.claims? token .access = none) :
    j.parseEmbeddedAccess token = none := by
  rw [parseEmbeddedAccess, h]
  rfl

/-- **What was generated is read back**, exactly for its kind and exactly
for its lifetime. An issuer that shares a secret generates a token of any
kind for any payload, a 64-bit number or any text; its expiry is the sum of
the time and the lifetime. At any time the token is read as that payload by
the reader of its kind, up to its expiry, and otherwise it is refused. Read
as an access token inside a refresh token it gives the account that it is
for, however late. A refresh token gives back the access token that it was
issued for, whatever text that is. And an issuer with the same secret and
another algorithm refuses the token, read as what it may be. -/
theorem generated_token_read_back (j : TokenIssuer) {d : Digest}
    (hd : j.algorithm.digest? = some d) {value : TokenValue}
    (hvalue : ∀ id, value.accountId? = some id → Fits64 id) (kind : TokenKind) {issued ttl : Int}
    (hissued : Fits64 issued) (hexp : 0 ≤ issued + ttl) (hfits : Fits64 (issued + ttl))
    (jti : String) :
    ∃ t, j.generate issued jti value kind ttl = .ok t ∧ t.expiry = issued + ttl ∧
      (∀ now kind', j.parse now t.token kind' =
        if kind' = kind ∧ now ≤ issued + ttl then some value else none) ∧
      j.parseEmbeddedAccess t.token = (if kind = .access then value.accountId? else none) ∧
      (∀ access, 0 ≤ issued + j.refreshTtl → Fits64 (issued + j.refreshTtl) →
        ∃ r, j.issueRefresh issued jti access = .ok r ∧ r.expiry = issued + j.refreshTtl ∧
          ∀ now ≤ r.expiry, j.parseRefresh now r.token = some access) ∧
      ∀ j' : TokenIssuer, j'.secret = j.secret → j'.algorithm ≠ j.algorithm →
        (∀ now kind', j'.parse now t.token kind' = none) ∧
          j'.parseEmbeddedAccess t.token = none := by
  -- what the issuer signs says what it was asked for, and is in range
  have hgenerate {value : TokenValue} (hvalue : ∀ id, value.accountId? = some id → Fits64 id)
      (kind : TokenKind) {ttl : Int} (hfits : Fits64 (issued + ttl)) :
      ∃ t, j.generate issued jti value kind ttl = .ok t ∧ t.expiry = issued + ttl ∧
        j.Signs t.token ⟨jti, issued, issued + ttl, kind, value⟩ ∧
        Claims.Ranged ⟨jti, issued, issued + ttl, kind, value⟩ := by
    obtain ⟨t, ht⟩ := exists_generate_eq_ok hd hfits jti value kind
    obtain ⟨-, hsigns, hexpiry⟩ := generate_eq_ok ht
    exact ⟨t, ht, hexpiry, hsigns, hissued, hfits, hvalue⟩
  obtain ⟨t, ht, hexpiry, hsigns, hranged⟩ := hgenerate hvalue kind hfits
  refine ⟨t, ht, hexpiry, hsigns.parse_eq hranged hexp, ?_, fun access hexp' hfits' => ?_,
    fun j' _ halgorithm => ?_⟩
  · by_cases hkind : kind = .access
    · subst hkind
      rw [parseEmbeddedAccess, hsigns.claims?_eq hranged hexp, if_pos rfl]
      rfl
    · rw [parseEmbeddedAccess_eq_none (hsigns.claims?_eq_none hkind), if_neg hkind]
  · have htext : ∀ id, (TokenValue.text access).accountId? = some id → Fits64 id := by
      rintro id ⟨⟩
    obtain ⟨r, hr, hrexpiry, hrsigns, hrranged⟩ := hgenerate htext .refresh hfits'
    refine ⟨r, hr, hrexpiry, fun now hle => ?_⟩
    rw [hrexpiry] at hle
    rw [parseRefresh, hrsigns.parse_eq hrranged hexp', if_pos ⟨rfl, hle⟩]
    rfl
  · have hnone (kind' : TokenKind) : j'.claims? t.token kind' = none :=
      hsigns.claims?_eq_none_of_algorithm halgorithm kind'
    exact ⟨fun now kind' => parse_eq_none (hnone kind') now, parseEmbeddedAccess_eq_none (hnone _)⟩

/-- A refresh token for a text of quotes and control characters, issued ten
seconds before 1970: it is read up to its last second and no longer, and not
by readers of other kinds or algorithms. -/
theorem generated_token_read_back_plain :
    let j : TokenIssuer := ⟨[1, 2, 3], .hs512, 60, 3600, 60, 60⟩
    ∃ t, j.generate (-10) "jti" (.text "\"\\\u0000\n😀") .refresh 70 = .ok t ∧ t.expiry = 60 ∧
      j.parse 60 t.token .refresh = some (.text "\"\\\u0000\n😀") ∧
      j.parse 61 t.token .refresh = none ∧ j.parse 60 t.token .access = none ∧
      j.parseEmbeddedAccess t.token = none ∧
      ({ j with algorithm := .hs256 }).parse 60 t.token .refresh = none := by
  intro j
  have hvalue : ∀ id, (TokenValue.text "\"\\\u0000\n😀").accountId? = some id → Fits64 id := by
    rintro _ ⟨⟩
  have hexp : (0 : Int) ≤ -10 + 70 := by decide
  obtain ⟨t, ht, hexpiry, hparse, hembedded, -, hother⟩ :=
    generated_token_read_back j (d := .sha512) rfl hvalue .refresh (by decide) hexp (by decide)
      "jti"
  refine ⟨t, ht, hexpiry, ?_, ?_, ?_, hembedded, (hother { j with algorithm := .hs256 } rfl
    (by decide)).1 60 .refresh⟩
  · rw [hparse, if_pos (by decide)]
  · rw [hparse, if_neg (by decide)]
  · rw [hparse, if_neg (by decide)]

/-! ## Lifetimes that are too long -/

/-- What comes of signing a token at a time for a lifetime: a token that
expires a lifetime later and is accepted at once, or the sum of the two is
no 64-bit number, and signing is aborted. -/
structure Lives {β : Type} (issued ttl : Int) (r : Except (Failure TokenError) IssuedToken)
    (read : IssuedToken → Int → Option β) (b : β) : Prop where
  accepted : Fits64 (issued + ttl) →
    ∃ t, r = .ok t ∧ t.expiry = issued + ttl ∧ issued < t.expiry ∧ read t issued = some b
  aborted : ¬ Fits64 (issued + ttl) → r = .error .aborted

/-- What is read further lives as long. -/
theorem Lives.bind {β γ : Type} {issued ttl : Int} {r : Except (Failure TokenError) IssuedToken}
    {read : IssuedToken → Int → Option β} {b : β} (h : Lives issued ttl r read b)
    {f : β → Option γ} {a : γ} (hf : f b = some a) :
    Lives issued ttl r (fun t now => (read t now).bind f) a where
  accepted hfits := by
    obtain ⟨t, ht, hexpiry, hlt, hread⟩ := h.accepted hfits
    refine ⟨t, ht, hexpiry, hlt, ?_⟩
    rw [hread]
    exact hf
  aborted := h.aborted

/-- **A token is accepted at the time that it is generated**, unless its
lifetime is too long for the sum. -/
theorem lives_of_generate (hd : j.algorithm.digest? = some d) {issued ttl : Int} (jti : String)
    {value : TokenValue} (kind : TokenKind) (hissued : 0 ≤ issued) (hpos : 0 < ttl)
    (hvalue : ∀ id, value.accountId? = some id → Fits64 id) :
    Lives issued ttl (j.generate issued jti value kind ttl)
      (fun t now => j.parse now t.token kind) value where
  accepted hfits := by
    obtain ⟨t, ht⟩ := exists_generate_eq_ok hd hfits jti value kind
    obtain ⟨hclaims, hexpiry⟩ := claims?_of_generate ht hissued hpos hvalue
    have hlt : issued < issued + ttl := by omega
    refine ⟨t, ht, hexpiry, hexpiry ▸ hlt, ?_⟩
    rw [parse_eq_of_claims? hclaims, if_pos (Int.le_of_lt hlt)]
  aborted hfits := generate_eq_aborted_iff.2 hfits

/-- **Tokens of checked settings live, unless their lifetime is too long.**
The issuer of settings that pass signs tokens of all four kinds, at any
time from 1970 on. As long as the sum of time and lifetime is a 64-bit
number there is a token, which expires then, later than it is issued, and
is accepted by the reader of its kind at the time that it is issued. If
the sum is none, signing is aborted: the judge of settings asks for
lifetimes that are positive, and for no more. -/
theorem issued_token_lives {c : Config} (hc : c.check = .ok ()) {now : Int} (hnow : 0 ≤ now)
    (jti : String) :
    ∃ j, ofConfig c.security.jwt = .ok j ∧
      (∀ id, Fits64 id → Lives now c.security.jwt.accessTtlSecs (j.issueAccess now jti id)
        (fun t now' => j.parseAccess now' t.token) id) ∧
      (∀ access, Lives now c.security.jwt.refreshTtlSecs (j.issueRefresh now jti access)
        (fun t now' => j.parseRefresh now' t.token) access) ∧
      (∀ id, Fits64 id → Lives now c.security.jwt.verifyEmailTtlSecs
        (j.issueVerifyEmail now jti id)
        (fun t now' => j.parseAccount now' t.token .verifyEmail) id) ∧
      ∀ id, Fits64 id → Lives now c.security.jwt.forgetPasswordTtlSecs
        (j.issueForgetPassword now jti id)
        (fun t now' => j.parseAccount now' t.token .forgetPassword) id := by
  have hchecked := Config.check_eq_ok_iff_checked.1 hc
  obtain ⟨a, d, hd, hj⟩ := hchecked.exists_issuer
  set j : TokenIssuer := ⟨Utf8.encode c.security.jwt.secret, a, c.security.jwt.accessTtlSecs,
    c.security.jwt.refreshTtlSecs, c.security.jwt.verifyEmailTtlSecs,
    c.security.jwt.forgetPasswordTtlSecs⟩
  -- one argument for a payload of any kind, with the lifetime of some setting
  have hlives (value : TokenValue) (hvalue : ∀ id, value.accountId? = some id → Fits64 id)
      (kind : TokenKind) {name : String} {ttl : Int} (hl : (name, ttl) ∈ c.lifetimes) :
      Lives now ttl (j.generate now jti value kind ttl)
        (fun t now' => j.parse now' t.token kind) value :=
    lives_of_generate (j := j) hd jti kind hnow (hchecked.lifetimes _ hl) hvalue
  have haccount {id : Int} (hid : Fits64 id) :
      ∀ id', (TokenValue.account id).accountId? = some id' → Fits64 id' := by
    rintro _ ⟨⟩
    exact hid
  have haccess : ("access_ttl_secs", c.security.jwt.accessTtlSecs) ∈ c.lifetimes := by
    simp [Config.lifetimes]
  have hrefresh : ("refresh_ttl_secs", c.security.jwt.refreshTtlSecs) ∈ c.lifetimes := by
    simp [Config.lifetimes]
  have hverify : ("verify_email_ttl_secs", c.security.jwt.verifyEmailTtlSecs) ∈ c.lifetimes := by
    simp [Config.lifetimes]
  have hforget :
      ("forget_password_ttl_secs", c.security.jwt.forgetPasswordTtlSecs) ∈ c.lifetimes := by
    simp [Config.lifetimes]
  refine ⟨j, hj, fun id hid => ?_, fun access => ?_, fun id hid => ?_, fun id hid => ?_⟩
  · exact (hlives (.account id) (haccount hid) .access haccess).bind rfl
  · exact (hlives (.text access) (by rintro _ ⟨⟩) .refresh hrefresh).bind rfl
  · exact (hlives (.account id) (haccount hid) .verifyEmail hverify).bind rfl
  · exact (hlives (.account id) (haccount hid) .forgetPassword hforget).bind rfl

/-- Settings that pass, with access tokens that are to live for good. -/
def endlessConfig : Config where
  security :=
    { hashCost := 4, jwt := { secret := "secret", accessTtlSecs := 0x7fffffffffffffff } }
  validation := ⟨"", [], [], [], []⟩

/-- They pass, and no access token can be signed: that is aborted. Refresh
tokens live. -/
theorem issued_token_lives_endless : endlessConfig.check = .ok () ∧
    ∃ j r, ofConfig endlessConfig.security.jwt = .ok j ∧
      (∀ id, Fits64 id → j.issueAccess 1785000000 "first" id = .error .aborted) ∧
      j.issueRefresh 1785000000 "first" "text" = .ok r ∧ r.expiry = 1787592000 ∧
      j.parseRefresh 1785000000 r.token = some "text" := by
  have hc : endlessConfig.check = .ok () := by decide
  have hnow : (0 : Int) ≤ 1785000000 := by decide
  obtain ⟨j, hj, haccess, hrefresh, -, -⟩ := issued_token_lives hc hnow "first"
  obtain ⟨r, hr, hexpiry, -, hread⟩ := (hrefresh "text").accepted (by decide)
  exact ⟨hc, j, r, hj, fun id hid => (haccess id hid).aborted (by decide), hr, hexpiry, hread⟩

end TokenIssuer

end SignOn
