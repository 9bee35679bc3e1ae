import Mathlib.Data.Option.Basic
import SignOn.Proofs.Codec.Base64
import SignOn.Proofs.Json.RoundTrip
import SignOn.Token.Issuer
/-!
# Signed tokens, written and read

A signed token says exactly what was signed: `Signed.sign_inj` holds for
any claims, and `Signed.open?_sign` reads them back where the numbers in
them are 64-bit numbers and the expiry is not negative. The three parts
can be told apart because no base64 symbol is a dot.

For an issuer, `TokenIssuer.Signs` is the relation between a token and
what it says.
-/

namespace SignOn

/-! ## JSON forms -/

/-- A number out of range is refused, not cut down. -/
theorem Json.eq_of_asInt64_whole {n m : Int} (h : asInt64 (.whole n) = some m) : m = n := by
  change (if Fits64 n then some n else none) = some m at h
  split at h
  · exact (Option.some.inj h).symm
  · cases h

/-- The header names its algorithm. -/
theorem Header.algorithm?_toJson (a : Algorithm) : algorithm? (toJson a) = some a := by
  cases a <;> rfl

theorem Header.plain_toJson (a : Algorithm) : (toJson a).Plain := by
  simp [toJson, Json.ofMembers, Json.ofString, Json.Plain, Json.PlainMembers]

theorem TokenKind.ofJson?_wireName (k : TokenKind) :
    TokenKind.ofJson? (.ofString k.wireName) = some k := by
  cases k <;> rfl

theorem TokenValue.plain_toJson (v : TokenValue) : v.toJson.Plain := by
  cases v <;> simp [toJson, Json.ofString, Json.Plain]

theorem TokenValue.toJson_inj {v v' : TokenValue} (h : v.toJson = v'.toJson) : v = v' := by
  cases v <;> cases v' <;> simp_all [toJson, Json.ofString]

/-- A payload is read back if its account id is a 64-bit number. -/
theorem TokenValue.ofJson?_toJson {v : TokenValue} (h : ∀ id, v.accountId? = some id → Fits64 id) :
    TokenValue.ofJson? v.toJson = some v := by
  cases v with
  | account id => simp [ofJson?, toJson, Json.asInt64, h id rfl]
  | text s => rfl

namespace Claims

theorem plain_toJson (c : Claims) : c.toJson.Plain := by
  simp [toJson, Json.ofMembers, Json.ofString, Json.Plain, Json.PlainMembers,
    TokenValue.plain_toJson]

/-- The JSON form says all there is to a token. -/
theorem toJson_inj {c c' : Claims} (h : c.toJson = c'.toJson) : c = c' := by
  obtain ⟨jti, iat, exp, kind, value⟩ := c
  obtain ⟨jti', iat', exp', kind', value'⟩ := c'
  simp only [toJson, Json.ofMembers, Json.ofString, List.map_cons, List.map_nil, Json.object.injEq,
    List.cons.injEq, Prod.mk.injEq, Json.text.injEq, Json.whole.injEq, Option.some.injEq,
    true_and, and_true] at h
  obtain ⟨rfl, rfl, rfl, hkind, hvalue⟩ := h
  have hk : some kind = some kind' := by
    rw [← TokenKind.ofJson?_wireName kind, hkind, TokenKind.ofJson?_wireName]
  rw [Option.some.inj hk, TokenValue.toJson_inj hvalue]

/-- The numbers of a token are 64-bit numbers. -/
structure Ranged (c : Claims) : Prop where
  iat : Fits64 c.iat
  exp : Fits64 c.exp
  accountId : ∀ id, c.value.accountId? = some id → Fits64 id

/-- The values of the fields, in their order. -/
theorem fields_toJson (c : Claims) :
    c.toJson.fields fieldNames = some [some (.ofString c.jti), some (.whole c.iat),
      some (.whole c.exp), some (.ofString c.kind.wireName), some c.value.toJson] := by
  rfl

/-- **The JSON form of claims is read back.** -/
theorem ofJson?_toJson {c : Claims} (h : c.Ranged) : ofJson? c.toJson = some c := by
  have hiat : Json.asInt64 (.whole c.iat) = some c.iat := if_pos h.iat
  have hexp : Json.asInt64 (.whole c.exp) = some c.exp := if_pos h.exp
  have hjti : Json.asString (.ofString c.jti) = some c.jti := rfl
  rw [ofJson?, fields_toJson]
  simp only [Option.bind_eq_bind, Option.bind_some, Json.required, hjti, hiat, hexp,
    TokenKind.ofJson?_wireName, TokenValue.ofJson?_toJson h.accountId]
  rfl

/-- Whatever is read from the JSON form of claims is these claims. -/
theorem eq_of_ofJson?_toJson {c c' : Claims} (h : ofJson? c'.toJson = some c) : c = c' := by
  have hvalue {v v' : TokenValue} (h : TokenValue.ofJson? v'.toJson = some v) : v = v' := by
    cases v' with
    | account id =>
      unfold TokenValue.ofJson? at h
      split at h
      · next n hn =>
        cases h
        rw [Json.eq_of_asInt64_whole hn]
      · cases h
    | text t => exact (Option.some.inj h).symm
  rw [ofJson?, fields_toJson] at h
  simp only [Option.bind_eq_bind, Option.bind_some, Option.bind_eq_some_iff, Json.required] at h
  obtain ⟨jti, hjti, iat, hiat, exp, hexp, kind, hkind, value, hval, hc⟩ := h
  cases hc
  rw [TokenKind.ofJson?_wireName] at hkind
  cases hjti
  cases hkind
  rw [Json.eq_of_asInt64_whole hiat, Json.eq_of_asInt64_whole hexp, hvalue hval]

end Claims

namespace Signed

/-- The registered claims of a payload are in order if it expires. -/
theorem registeredOk_toJson (c : Claims) : registeredOk c.toJson = decide (0 ≤ c.exp) := by
  have hfields : c.toJson.fields registeredNames =
      some [some (.whole c.exp), none, none, none, none] := rfl
  simp [registeredOk, hfields]

/-! ## Parts and dots -/

/-- No symbol of a signed token is a dot. -/
theorem dot_notMem_table : dot ∉ Base64.url.table := by decide

theorem table_lt : ∀ b ∈ Base64.url.table, b.toNat < 128 := by decide +kernel

theorem dot_notMem_symbols (bytes : List UInt8) : dot ∉ Base64.url.symbols bytes :=
  fun h => dot_notMem_table (Base64.Alphabet.mem_table_of_mem_symbols h)

theorem symbols_lt {bytes : List UInt8} : ∀ b ∈ Base64.url.symbols bytes, b.toNat < 128 :=
  fun b h => table_lt b (Base64.Alphabet.mem_table_of_mem_symbols h)

/-- A value says what its part says. -/
theorem part_inj {v v' : Json} (hv : v.Plain) (hv' : v'.Plain) (h : part v = part v') :
    v = v' := by
  have hbytes := Base64.Alphabet.symbols_inj Base64.pad_notMem_url h
  have hread : some v = some v' := by
    rw [← Json.read_encode_write hv, hbytes, Json.read_encode_write hv']
  exact Option.some.inj hread

/-- A part is read back. -/
theorem readPart_part {v : Json} (h : v.Plain) : readPart (part v) = some v := by
  have hdecode : Base64.url.decodeSymbols (part v) = .ok (Utf8.encode v.write) :=
    (Base64.Alphabet.decodeSymbols_eq_ok_iff Base64.pad_notMem_url).2 rfl
  rw [readPart, hdecode]
  exact Json.read_encode_write h

/-- A text without dots after the last dot is cut off there. -/
theorem cutLast_append {after : List UInt8} (h : dot ∉ after) (before : List UInt8) :
    cutLast (before ++ dot :: after) = some (before, after) := by
  have hall : ∀ b ∈ after.reverse, (decide (b ≠ dot)) = true := by
    intro b hb
    refine decide_eq_true ?_
    rintro rfl
    exact h (List.mem_reverse.1 hb)
  have hrev : (before ++ dot :: after).reverse = after.reverse ++ dot :: before.reverse := by
    simp
  have hspan : (before ++ dot :: after).reverse.span (fun b => decide (b ≠ dot)) =
      (after.reverse, dot :: before.reverse) := by
    rw [hrev, List.span_eq_takeWhile_dropWhile, List.takeWhile_append_of_pos hall,
      List.dropWhile_append_of_pos hall, List.takeWhile_cons_of_neg (by simp),
      List.dropWhile_cons_of_neg (by simp), List.append_nil]
  rw [cutLast, hspan]
  simp

variable {a : Algorithm} {d : Digest} {secret : List UInt8}

/-- The bytes of a signed token. -/
theorem encode_sign (c : Claims) :
    Utf8.encode (sign a d secret c) =
      message a c ++ dot :: Base64.url.symbols (Hmac.code d secret (message a c)) := by
  refine Utf8.encode_ofList_map_ofNat fun b hb => ?_
  have hdot : dot.toNat < 128 := by decide
  rw [message, List.append_assoc, List.mem_append, List.cons_append, List.mem_cons,
    List.mem_append, List.mem_cons] at hb
  rcases hb with hb | rfl | hb | rfl | hb
  · exact symbols_lt b hb
  · exact hdot
  · exact symbols_lt b hb
  · exact hdot
  · exact symbols_lt b hb

/-- **A signed token says one thing.** -/
theorem sign_inj {c c' : Claims} (h : sign a d secret c = sign a d secret c') : c = c' := by
  -- the code is cut off first, and then the header
  have hbytes := congrArg (fun t => cutLast (Utf8.encode t)) h
  simp only [encode_sign, cutLast_append (dot_notMem_symbols _), Option.some.injEq,
    Prod.mk.injEq] at hbytes
  have hparts := congrArg cutLast hbytes.1
  simp only [message, part, cutLast_append (dot_notMem_symbols _), Option.some.injEq,
    Prod.mk.injEq, true_and] at hparts
  exact Claims.toJson_inj (part_inj c.plain_toJson c'.plain_toJson hparts)

/-- **A signed token is read back**, unless its expiry is negative. -/
theorem open?_sign {c : Claims} (h : c.Ranged) :
    open? a d secret (sign a d secret c) = if 0 ≤ c.exp then some c else none := by
  have hcode : Base64.url.decodeSymbols
      (Base64.url.symbols (Hmac.code d secret (message a c))) =
        .ok (Hmac.code d secret (message a c)) :=
    (Base64.Alphabet.decodeSymbols_eq_ok_iff Base64.pad_notMem_url).2 rfl
  have hmessage : cutLast (message a c) = some (part (Header.toJson a), part c.toJson) :=
    cutLast_append (dot_notMem_symbols _) _
  rw [open?, encode_sign, cutLast_append (dot_notMem_symbols _)]
  simp only [Option.bind_eq_bind, Option.bind_some, hmessage,
    readPart_part (Header.plain_toJson a), Header.algorithm?_toJson, guard_true, hcode,
    Except.toOption, readPart_part c.plain_toJson, Claims.ofJson?_toJson h, registeredOk_toJson]
  by_cases hexp : 0 ≤ c.exp
  · simp [hexp]
  · simp [hexp]

/-- **A token is refused under any other algorithm**, whatever the
secret. -/
theorem open?_sign_eq_none {a' : Algorithm} (h : a ≠ a') (d' : Digest) (secret' : List UInt8)
    (c : Claims) : open? a' d' secret' (sign a d secret c) = none := by
  have hmessage : cutLast (message a c) = some (part (Header.toJson a), part c.toJson) :=
    cutLast_append (dot_notMem_symbols _) _
  rw [open?, encode_sign, cutLast_append (dot_notMem_symbols _)]
  simp only [Option.bind_eq_bind, Option.bind_some, hmessage,
    readPart_part (Header.plain_toJson a), Header.algorithm?_toJson, eq_false h, guard_false]
  rfl

/-- Whatever is read from a signed token is what was signed. -/
theorem eq_of_open?_sign {c c' : Claims} (h : open? a d secret (sign a d secret c') = some c) :
    c = c' := by
  have hmessage : cutLast (message a c') = some (part (Header.toJson a), part c'.toJson) :=
    cutLast_append (dot_notMem_symbols _) _
  rw [open?, encode_sign, cutLast_append (dot_notMem_symbols _)] at h
  simp only [Option.bind_eq_bind, Option.bind_some, hmessage,
    readPart_part (Header.plain_toJson a), readPart_part c'.plain_toJson,
    Option.bind_eq_some_iff] at h
  obtain ⟨_, _, _, _, _, _, _, _, c₀, hc₀, _, _, hc⟩ := h
  cases hc
  exact Claims.eq_of_ofJson?_toJson hc₀

end Signed

/-! ## Issuers -/

namespace TokenIssuer

variable {j : TokenIssuer}

/-- A token is what an issuer writes for its contents. -/
def Signs (j : TokenIssuer) (token : String) (c : Claims) : Prop :=
  ∃ d, j.algorithm.digest? = some d ∧ token = Signed.sign j.algorithm d j.secret c

/-- A token says one thing. -/
theorem Signs.unique {token : String} {c c' : Claims} (h : j.Signs token c)
    (h' : j.Signs token c') : c = c' := by
  obtain ⟨d, hd, rfl⟩ := h
  obtain ⟨d', hd', htoken⟩ := h'
  obtain rfl : d = d' := Option.some.inj (hd.symm.trans hd')
  exact Signed.sign_inj htoken

/-- What an issuer issues: the token of what was asked for, up to the
sum of the time and the lifetime, which is in range. -/
theorem generate_eq_ok {now ttl : Int} {jti : String} {value : TokenValue} {kind : TokenKind}
    {t : IssuedToken} (h : j.generate now jti value kind ttl = .ok t) :
    Fits64 (now + ttl) ∧ j.Signs t.token ⟨jti, now, now + ttl, kind, value⟩ ∧
      t.expiry = now + ttl := by
  unfold generate at h
  split at h
  · next hfits =>
    split at h
    · next d hd =>
      rw [← Except.ok.inj h]
      exact ⟨hfits, ⟨d, hd, rfl⟩, rfl⟩
    · cases h
  · cases h

/-- An issuer that shares a secret issues what it is asked for, if the sum
of the time and the lifetime is in range. -/
theorem exists_generate_eq_ok {d : Digest} (hd : j.algorithm.digest? = some d) {now ttl : Int}
    (hfits : Fits64 (now + ttl)) (jti : String) (value : TokenValue) (kind : TokenKind) :
    ∃ t, j.generate now jti value kind ttl = .ok t := by
  unfold generate
  rw [if_pos hfits, hd]
  exact ⟨_, rfl⟩

/-- **Signing is aborted** exactly if the sum leaves the range. -/
theorem generate_eq_aborted_iff {now ttl : Int} {jti : String} {value : TokenValue}
    {kind : TokenKind} :
    j.generate now jti value kind ttl = .error .aborted ↔ ¬ Fits64 (now + ttl) := by
  unfold generate
  split
  · next hfits => split <;> simp [hfits]
  · next hfits => simp [hfits]

/-- Whoever shares a secret is kept from signing by nothing else. -/
theorem generate_eq_error {d : Digest} (hd : j.algorithm.digest? = some d) {now ttl : Int}
    {jti : String} {value : TokenValue} {kind : TokenKind} {e : Failure TokenError}
    (h : j.generate now jti value kind ttl = .error e) : e = .aborted ∧ ¬ Fits64 (now + ttl) := by
  have hnot : ¬ Fits64 (now + ttl) := fun hfits => by
    obtain ⟨t, ht⟩ := exists_generate_eq_ok hd hfits jti value kind
    cases ht.symm.trans h
  exact ⟨Except.error.inj (h.symm.trans (generate_eq_aborted_iff.2 hnot)), hnot⟩

/-- What is accepted has been opened, and is of the kind that was asked
for. -/
theorem claims?_eq_some_iff {token : String} {kind : TokenKind} {c : Claims} :
    j.claims? token kind = some c ↔
      (∃ d, j.algorithm.digest? = some d ∧ Signed.open? j.algorithm d j.secret token = some c) ∧
        c.kind = kind := by
  simp only [claims?, Option.bind_eq_bind, Option.bind_eq_some_iff]
  constructor
  · rintro ⟨d, hd, c', hopen, _, hguard, hc⟩
    cases hc
    by_cases hkind : c.kind = kind
    · exact ⟨⟨d, hd, hopen⟩, hkind⟩
    · simp [hkind] at hguard
  · rintro ⟨⟨d, hd, hopen⟩, rfl⟩
    exact ⟨d, hd, c, hopen, (), by simp, rfl⟩

/-- **What is signed is accepted** for its own kind, unless it has
negative expiry. -/
theorem Signs.claims?_eq {token : String} {c : Claims} (h : j.Signs token c) (hc : c.Ranged)
    (hexp : 0 ≤ c.exp) : j.claims? token c.kind = some c := by
  obtain ⟨d, hd, rfl⟩ := h
  rw [claims?, hd]
  simp [Signed.open?_sign hc, hexp]

/-- Whatever is accepted is what was signed. -/
theorem Signs.eq_of_claims? {token : String} {kind : TokenKind} {c c' : Claims}
    (h : j.Signs token c') (hc : j.claims? token kind = some c) : c = c' := by
  obtain ⟨d, hd, rfl⟩ := h
  obtain ⟨⟨d', hd', hopen⟩, -⟩ := claims?_eq_some_iff.1 hc
  obtain rfl := Option.some.inj (hd.symm.trans hd')
  exact Signed.eq_of_open?_sign hopen

/-- A token is accepted as long as it has not expired. -/
theorem parse_eq_some_iff {now : Int} {token : String} {kind : TokenKind} {v : TokenValue} :
    j.parse now token kind = some v ↔
      ∃ c, j.claims? token kind = some c ∧ now ≤ c.exp ∧ c.value = v := by
  simp only [parse, Option.bind_eq_bind, Option.bind_eq_some_iff]
  constructor
  · rintro ⟨c, hc, u, hu, hv⟩
    by_cases hle : now ≤ c.exp
    · exact ⟨c, hc, hle, Option.some.inj hv⟩
    · simp [hle] at hu
  · rintro ⟨c, hc, hle, rfl⟩
    exact ⟨c, hc, (), by simp [hle], rfl⟩

/-- Time decides by the expiry alone. -/
theorem parse_eq_of_claims? {token : String} {kind : TokenKind} {c : Claims}
    (h : j.claims? token kind = some c) (now : Int) :
    j.parse now token kind = if now ≤ c.exp then some c.value else none := by
  rw [parse, h]
  by_cases hle : now ≤ c.exp
  · simp [hle]
  · simp [hle]

theorem parse_eq_none {token : String} {kind : TokenKind} (h : j.claims? token kind = none)
    (now : Int) : j.parse now token kind = none := by
  rw [parse, h]
  rfl

theorem accountId?_eq_some_iff {v : TokenValue} {id : Int} :
    v.accountId? = some id ↔ v = .account id := by
  cases v <;> simp [TokenValue.accountId?]

theorem text?_eq_some_iff {v : TokenValue} {t : String} : v.text? = some t ↔ v = .text t := by
  cases v <;> simp [TokenValue.text?]

theorem parseAccount_eq_some_iff {now id : Int} {token : String} {kind : TokenKind} :
    j.parseAccount now token kind = some id ↔
      ∃ c, j.claims? token kind = some c ∧ now ≤ c.exp ∧ c.value = .account id := by
  simp only [parseAccount, Option.bind_eq_bind, Option.bind_eq_some_iff, parse_eq_some_iff,
    accountId?_eq_some_iff]
  constructor
  · rintro ⟨v, ⟨c, hc, hle, rfl⟩, hv⟩
    exact ⟨c, hc, hle, hv⟩
  · rintro ⟨c, hc, hle, hv⟩
    exact ⟨c.value, ⟨c, hc, hle, rfl⟩, hv⟩

/-- A token is for one account, whenever it is accepted. -/
theorem parseAccount_unique {now now' u u' : Int} {token : String} {kind : TokenKind}
    (h : j.parseAccount now token kind = some u) (h' : j.parseAccount now' token kind = some u') :
    u = u' := by
  obtain ⟨c, hc, -, hu⟩ := parseAccount_eq_some_iff.1 h
  obtain ⟨c', hc', -, hu'⟩ := parseAccount_eq_some_iff.1 h'
  obtain rfl := Option.some.inj (hc.symm.trans hc')
  exact TokenValue.account.inj (hu.symm.trans hu')

/-- **A signed token is for its account**, among the tokens of its kind,
until it expires. -/
theorem Signs.parseAccount_iff {now u u' : Int} {token : String} {c : Claims}
    (h : j.Signs token c) (hc : c.Ranged) (hvalue : c.value = .account u) (hnow : 0 ≤ now) :
    j.parseAccount now token c.kind = some u' ↔ u' = u ∧ now ≤ c.exp := by
  rw [parseAccount_eq_some_iff]
  constructor
  · rintro ⟨c', hc', hle, hvalue'⟩
    obtain rfl := h.eq_of_claims? hc'
    exact ⟨TokenValue.account.inj (hvalue'.symm.trans hvalue), hle⟩
  · rintro ⟨rfl, hle⟩
    exact ⟨c, h.claims?_eq hc (Int.le_trans hnow hle), hle, hvalue⟩

/-- It is none of any other kind. -/
theorem Signs.claims?_eq_none {token : String} {c : Claims} {kind : TokenKind}
    (h : j.Signs token c) (hkind : c.kind ≠ kind) : j.claims? token kind = none := by
  refine Option.eq_none_iff_forall_ne_some.2 fun c' hc' => hkind ?_
  obtain rfl := h.eq_of_claims? hc'
  exact (claims?_eq_some_iff.1 hc').2

theorem parseRefresh_eq_some_iff {now : Int} {token access : String} :
    j.parseRefresh now token = some access ↔
      ∃ c, j.claims? token .refresh = some c ∧ now ≤ c.exp ∧ c.value = .text access := by
  simp only [parseRefresh, Option.bind_eq_bind, Option.bind_eq_some_iff, parse_eq_some_iff,
    text?_eq_some_iff]
  constructor
  · rintro ⟨v, ⟨c, hc, hle, rfl⟩, hv⟩
    exact ⟨c, hc, hle, hv⟩
  · rintro ⟨c, hc, hle, hv⟩
    exact ⟨c.value, ⟨c, hc, hle, rfl⟩, hv⟩

theorem parseEmbeddedAccess_eq_some_iff {id : Int} {token : String} :
    j.parseEmbeddedAccess token = some id ↔
      ∃ c, j.claims? token .access = some c ∧ c.value = .account id := by
  simp only [parseEmbeddedAccess, Option.bind_eq_bind, Option.bind_eq_some_iff,
    accountId?_eq_some_iff]

/-! ## Tokens that are issued are accepted -/

/-- An issuer whose tokens are readable that it issues at a time: it
shares a secret, and the tokens expire later, within the 64-bit
numbers. -/
structure Ready (j : TokenIssuer) (now : Int) : Prop where
  digest : ∃ d, j.algorithm.digest? = some d
  time : 0 ≤ now
  access : 0 < j.accessTtl ∧ Fits64 (now + j.accessTtl)
  refresh : 0 < j.refreshTtl ∧ Fits64 (now + j.refreshTtl)

/-- An issuer whose tokens expire within the 64-bit numbers that it issues
at a time. -/
structure PairFits (j : TokenIssuer) (now : Int) : Prop where
  access : Fits64 (now + j.accessTtl)
  refresh : Fits64 (now + j.refreshTtl)

variable {now : Int}

theorem Ready.pairFits (hj : j.Ready now) : j.PairFits now :=
  ⟨hj.access.2, hj.refresh.2⟩

/-- **A token that is issued is accepted.** -/
theorem claims?_of_generate {ttl : Int} {jti : String} {value : TokenValue} {kind : TokenKind}
    {t : IssuedToken} (h : j.generate now jti value kind ttl = .ok t) (htime : 0 ≤ now)
    (hpos : 0 < ttl) (hvalue : ∀ id, value.accountId? = some id → Fits64 id) :
    j.claims? t.token kind = some ⟨jti, now, now + ttl, kind, value⟩ ∧ t.expiry = now + ttl := by
  obtain ⟨hfits, hsigns, hexpiry⟩ := generate_eq_ok h
  refine ⟨hsigns.claims?_eq ⟨?_, hfits, hvalue⟩ ?_, hexpiry⟩
  · show Fits64 now
    unfold Fits64 at hfits ⊢
    omega
  · show 0 ≤ now + ttl
    omega

/-- An access token that is issued admits its account. -/
theorem Ready.access_of_issue (hj : j.Ready now) {jti : String} {u : Int} (hu : Fits64 u)
    {t : IssuedToken} (h : j.issueAccess now jti u = .ok t) :
    j.parseEmbeddedAccess t.token = some u := by
  have hvalue : ∀ id, (TokenValue.account u).accountId? = some id → Fits64 id := by
    rintro id ⟨⟩
    exact hu
  have hclaims := (claims?_of_generate h hj.time hj.access.1 hvalue).1
  exact parseEmbeddedAccess_eq_some_iff.2 ⟨_, hclaims, rfl⟩

/-- A refresh token that is issued carries its access token. -/
theorem Ready.refresh_of_issue (hj : j.Ready now) {jti access : String} {t : IssuedToken}
    (h : j.issueRefresh now jti access = .ok t) :
    j.claims? t.token .refresh = some ⟨jti, now, now + j.refreshTtl, .refresh, .text access⟩ ∧
      t.expiry = now + j.refreshTtl :=
  claims?_of_generate h hj.time hj.refresh.1 (by rintro id ⟨⟩)

end TokenIssuer

end SignOn
