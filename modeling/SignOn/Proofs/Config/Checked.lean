import SignOn.Config.Check
import SignOn.Service.Basic
/-!
# What settings that pass are good for

`Config.check` looks for faults one by one. Settings without any have
everything that the service is built from (`Config.Checked`): an issuer
that can sign, rules that can be read, and a cost that a hash can be
computed at. So the service can be built, `Config.Checked.exists_service`.
-/

namespace SignOn

namespace Config

variable {c : Config}

/-- Settings in which nothing is wrong. -/
structure Checked (c : Config) : Prop where
  secret : c.security.jwt.secret ≠ ""
  algorithm : c.security.jwt.algorithm ∈ signingAlgorithms
  lifetimes : ∀ l ∈ c.lifetimes, 0 < l.2
  hashCost : Bcrypt.costAllowed c.security.hashCost.toNat = true
  connections : c.database.maxConnections ≠ 0
  patterns : ∀ text ∈ c.validation.allPatterns, isPattern text = true

/-- **Nothing is wrong with settings that pass**, and only with those. -/
theorem check_eq_ok_iff_checked : c.check = .ok () ↔ c.Checked := by
  have hpart {p : Prop} [Decidable p] {fault : ConfigError} :
      (if p then [] else [fault]) = [] ↔ p := by
    split <;> simp [*]
  have hpart' {p : Prop} [Decidable p] {fault : ConfigError} :
      (if p then [fault] else []) = [] ↔ ¬ p := by
    split <;> simp [*]
  rw [check_eq_ok_iff, faults]
  simp only [List.append_eq_nil_iff, hpart, hpart', List.map_eq_nil_iff, List.filter_eq_nil_iff,
    decide_eq_true_eq, Int.not_le, Bool.not_eq_true', Bool.not_eq_false]
  constructor
  · rintro ⟨⟨⟨⟨⟨hsecret, halgorithm⟩, hlifetimes⟩, hcost⟩, hconnections⟩, hpatterns⟩
    exact ⟨hsecret, halgorithm, hlifetimes, hcost, hconnections, hpatterns⟩
  · rintro ⟨hsecret, halgorithm, hlifetimes, hcost, hconnections, hpatterns⟩
    exact ⟨⟨⟨⟨⟨hsecret, halgorithm⟩, hlifetimes⟩, hcost⟩, hconnections⟩, hpatterns⟩

/-- The algorithms that settings may name share a secret. -/
theorem exists_digest_of_mem {name : String} (h : name ∈ signingAlgorithms) :
    ∃ a d, Algorithm.ofName? name = some a ∧ a.digest? = some d := by
  simp only [signingAlgorithms, List.mem_cons, List.not_mem_nil, or_false] at h
  rcases h with rfl | rfl | rfl
  · exact ⟨.hs256, .sha256, rfl, rfl⟩
  · exact ⟨.hs384, .sha384, rfl, rfl⟩
  · exact ⟨.hs512, .sha512, rfl, rfl⟩

/-- There is an issuer, and it can sign. -/
theorem Checked.exists_issuer (h : c.Checked) :
    ∃ a d, a.digest? = some d ∧ TokenIssuer.ofConfig c.security.jwt =
      .ok ⟨Utf8.encode c.security.jwt.secret, a, c.security.jwt.accessTtlSecs,
        c.security.jwt.refreshTtlSecs, c.security.jwt.verifyEmailTtlSecs,
        c.security.jwt.forgetPasswordTtlSecs⟩ := by
  obtain ⟨a, d, ha, hd⟩ := exists_digest_of_mem h.algorithm
  refine ⟨a, d, hd, ?_⟩
  rw [TokenIssuer.ofConfig, ha]

/-- Whatever the judge takes for a pattern can be read. -/
theorem exists_pattern {text : String} (h : isPattern text = true) :
    ∃ p, Pattern.ofString text = .ok p := by
  unfold isPattern at h
  split at h
  · next p hp => exact ⟨p, hp⟩
  · cases h

theorem exists_mapM_pattern {texts : List String} (h : ∀ text ∈ texts, isPattern text = true) :
    ∃ ps, texts.mapM Pattern.ofString = .ok ps := by
  induction texts with
  | nil => exact ⟨[], rfl⟩
  | cons text texts ih =>
    obtain ⟨p, hp⟩ := exists_pattern (h text List.mem_cons_self)
    obtain ⟨ps, hps⟩ := ih fun text' h' => h text' (List.mem_cons_of_mem _ h')
    refine ⟨p :: ps, ?_⟩
    rw [List.mapM_cons, hp, hps]
    rfl

/-- **The rules for fields can be read**: what is built from them is what
was judged. -/
theorem Checked.exists_validator (h : c.Checked) :
    ∃ v, Validator.ofConfig c.validation = .ok v := by
  have hpatterns := h.patterns
  simp only [ValidationConfig.allPatterns, List.mem_append, List.mem_cons, or_imp, forall_and,
    forall_eq] at hpatterns
  obtain ⟨⟨⟨⟨hemail, hpassword⟩, hdisplayName⟩, hphone⟩, htelegram⟩ := hpatterns
  obtain ⟨email, hemail⟩ := exists_pattern hemail
  obtain ⟨password, hpassword⟩ := exists_mapM_pattern hpassword
  obtain ⟨displayName, hdisplayName⟩ := exists_mapM_pattern hdisplayName
  obtain ⟨phone, hphone⟩ := exists_mapM_pattern hphone
  obtain ⟨telegram, htelegram⟩ := exists_mapM_pattern htelegram
  refine ⟨⟨[email], password, displayName, phone, telegram⟩, ?_⟩
  rw [Validator.ofConfig, hemail, hpassword, hdisplayName, hphone, htelegram]
  rfl

/-- **The service can be built** from settings that pass. -/
theorem Checked.exists_service (h : c.Checked) :
    ∃ j v, TokenIssuer.ofConfig c.security.jwt = .ok j ∧ Validator.ofConfig c.validation = .ok v ∧
      Service.ofConfig c = .ok ⟨j, v, c.notifications.subjects, c.security.hashCost⟩ ∧
      ∃ d, j.algorithm.digest? = some d := by
  obtain ⟨a, d, hd, hissuer⟩ := h.exists_issuer
  obtain ⟨v, hvalidator⟩ := h.exists_validator
  refine ⟨_, v, hissuer, hvalidator, ?_, d, hd⟩
  rw [Service.ofConfig, hissuer, hvalidator]

end Config

end SignOn
