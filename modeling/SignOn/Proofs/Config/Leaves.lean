import SignOn.Config.Layers
import SignOn.Proofs.Codec.Base64
/-!
# The leaves of the settings

A leaf is one setting, at the end of a path through the sections, and it
knows for itself what each layer says of it: a document by what stands at
the path, the environment by a variable, a command line by a flag. The
settings are no more than their leaves (`Config.eq_of_leaves`), and a
document that is accepted settles each of them by what stands at its path
and by nothing else (`Config.settled`).
-/

namespace SignOn

/-! ## Places in documents -/

namespace Document

variable {d : Document} {e : Excess} {settings : List String} {values : List (Option Document)}
variable {name : String} {i : Nat}

/-- What stands under a name, or at the same place of a section that is
written as a list. -/
def under (name : String) (i : Nat) : Document → Option Document
  | .table entries => entries.lookup name
  | .list items => items[i]?
  | _ => none

/-- What stands at the end of a path. -/
def follow (d : Document) : List (String × Nat) → Option Document
  | [] => some d
  | p :: path => (d.under p.1 p.2).bind fun d' => d'.follow path

theorem follow_singleton (d : Document) (p : String × Nat) : d.follow [p] = d.under p.1 p.2 := by
  rw [follow]
  exact Option.bind_fun_some _

/-- What a section gives to a setting stands under its name. -/
theorem at?_of_section? (h : d.section? e settings = some values)
    (hname : settings[i]? = some name) : at? values i = d.under name i := by
  cases d with
  | table entries =>
    obtain rfl := Option.some.inj h
    rw [at?, List.getElem?_map, hname]
    rfl
  | list items =>
    have hi : i < settings.length := (List.getElem?_eq_some_iff.1 hname).1
    simp only [section?, Option.ite_none_left_eq_some, Option.some.injEq] at h
    obtain ⟨-, rfl⟩ := h
    rw [at?, List.getElem?_map, List.getElem?_range hi]
    rfl
  | _ => cases h

/-- A section that is read gives its settings what stands under their
names. -/
theorem readSection_eq_ok {ρ : Type} {title : String}
    {build : List (Option Document) → Except Misfit ρ} {r : ρ}
    (h : readSection title e settings build d = .ok r) :
    ∃ values, build values = .ok r ∧
      ∀ i name, settings[i]? = some name → at? values i = d.under name i := by
  unfold readSection at h
  split at h
  · next values hvalues => exact ⟨values, h, fun i name => at?_of_section? hvalues⟩
  · cases h

/-- A setting is what is written, if anything is. -/
theorem setting_eq_ok_iff {α : Type} {standard v : α} {read : Document → Option α}
    {d? : Option Document} : setting name standard read d? = .ok v ↔
      v = (d?.bind read).getD standard ∧ (d?.isSome → (d?.bind read).isSome) := by
  cases d? with
  | none => simp [setting, eq_comm]
  | some d => cases hread : read d <;> simp [setting, hread, eq_comm]

end Document

open Document

/-! ## Leaves -/

/-- One setting of a record of settings. -/
structure Leaf (ρ : Type) where
  Value : Type
  get : ρ → Value
  /-- The names of the sections on the way, with their places. -/
  path : List (String × Nat)
  /-- The value that a document writes. -/
  read : Document → Option Value
  /-- The value that the environment gives. -/
  fromEnvironment? : Config.Environment → Option Value := fun _ => none
  /-- The value that a command line gives. -/
  fromFlags? : Config.Flags → Option Value := fun _ => none

namespace Leaf

variable {ρ σ : Type} {d : Document} {standard r : ρ} {name : String} {i : Nat}

/-- The value that stands in a document. -/
def inDocument? (x : Leaf ρ) (d : Document) : Option x.Value :=
  (d.follow x.path).bind x.read

/-- A leaf of a section as a leaf of the record that has the section. -/
def inside (name : String) (i : Nat) (part : ρ → σ) (x : Leaf σ) : Leaf ρ :=
  { x with
    get := fun r => x.get (part r)
    path := (name, i) :: x.path }

/-- A leaf has the value that stands in a document, and what stands there
is one; or nothing stands there, and it has the standard value. -/
structure Settled (x : Leaf ρ) (standard : ρ) (d : Document) (r : ρ) : Prop where
  value : x.get r = (x.inDocument? d).getD (x.get standard)
  readable : (d.follow x.path).isSome → (x.inDocument? d).isSome

/-- **A setting that is read settles its leaf.** -/
theorem Settled.of_setting {β : Type} {title : String} {get : ρ → β} {read : Document → Option β}
    {fromEnvironment? : Config.Environment → Option β} {fromFlags? : Config.Flags → Option β}
    {d? : Option Document} (hplace : d? = d.under name i)
    (h : setting title (get standard) read d? = .ok (get r)) :
    Settled ⟨β, get, [(name, i)], read, fromEnvironment?, fromFlags?⟩ standard d r := by
  subst hplace
  obtain ⟨hvalue, hreadable⟩ := setting_eq_ok_iff.1 h
  constructor
  · show get r = ((d.follow [(name, i)]).bind read).getD (get standard)
    rw [follow_singleton]
    exact hvalue
  · show (d.follow [(name, i)]).isSome → ((d.follow [(name, i)]).bind read).isSome
    rw [follow_singleton]
    exact hreadable

/-- So does one that is kept in another form than it is read in. -/
theorem Settled.of_kept {α β : Type} {title : String} {get : ρ → β} {read : Document → Option α}
    {f : α → β} {v raw : α} {fromEnvironment? : Config.Environment → Option β}
    {fromFlags? : Config.Flags → Option β} {d? : Option Document}
    (hplace : d? = d.under name i) (h : setting title raw read d? = .ok v) (hget : get r = f v)
    (hstandard : get standard = f raw) :
    Settled ⟨β, get, [(name, i)], fun d => (read d).map f, fromEnvironment?, fromFlags?⟩
      standard d r := by
  subst hplace
  obtain ⟨hvalue, hreadable⟩ := setting_eq_ok_iff.1 h
  have hkept : (d.follow [(name, i)]).bind (fun d => (read d).map f) =
      ((d.under name i).bind read).map f := by
    rw [follow_singleton, Option.map_bind]
    rfl
  constructor
  · show get r = ((d.follow [(name, i)]).bind fun d => (read d).map f).getD (get standard)
    rw [hkept, hget, hstandard, hvalue, Option.getD_map]
  · show _ → ((d.follow [(name, i)]).bind fun d => (read d).map f).isSome
    rw [hkept, follow_singleton, Option.isSome_map]
    exact hreadable

/-- **A section that is read settles its leaves**, and one that is missing
leaves them as they are. -/
theorem Settled.inside {x : Leaf σ} {part : ρ → σ} {read : Document → Except Misfit σ}
    {d? : Option Document} (hplace : d? = d.under name i)
    (h : optionalSection (part standard) read d? = .ok (part r))
    (hx : ∀ d', read d' = .ok (part r) → x.Settled (part standard) d' (part r)) :
    (x.inside name i part).Settled standard d r := by
  subst hplace
  have hfollow : d.follow (x.inside name i part).path =
      (d.under name i).bind fun d' => d'.follow x.path := rfl
  cases hd : d.under name i with
  | none =>
    rw [hd] at h hfollow
    have hsame : part standard = part r := Except.ok.inj h
    constructor
    · rw [inDocument?, hfollow]
      exact congrArg x.get hsame.symm
    · rw [hfollow]
      nofun
  | some d' =>
    rw [hd] at h hfollow
    obtain ⟨hvalue, hreadable⟩ := hx d' h
    constructor
    · rw [inDocument?, hfollow]
      exact hvalue
    · rw [inDocument?, hfollow]
      exact hreadable

end Leaf

/-! ## The sections -/

namespace TransportConfig

variable {e : Excess} {d : Document} {c c' : TransportConfig}

/-- The port that the environment gives, unless it gives none or a text
that is no port number. -/
def portVariable? (env : Config.Environment) : Option UInt16 :=
  ((env "SSO_PORT").bind (decimalBelow? 0x10000)).map UInt16.ofNat

/-- The leaves of `transport`. -/
def leaves : List (Leaf TransportConfig) := [
  { Value := String
    get := host
    path := [("host", 0)]
    read := asText
    fromFlags? := Config.Flags.host },
  { Value := UInt16
    get := port
    path := [("port", 1)]
    read := fun d => (asBelow 0x10000 d).map UInt16.ofNat
    fromEnvironment? := portVariable?
    fromFlags? := Config.Flags.port }]

theorem settled (h : ofDocument e d = .ok c) : ∀ x ∈ leaves, x.Settled {} d c := by
  obtain ⟨values, h, hunder⟩ := readSection_eq_ok h
  obtain ⟨host, hhost, h⟩ := bind_eq_ok_iff.1 h
  obtain ⟨port, hport, h⟩ := bind_eq_ok_iff.1 h
  obtain rfl := Except.ok.inj h
  simp only [leaves, List.forall_mem_cons]
  exact ⟨.of_setting (hunder 0 _ rfl) hhost,
    .of_kept (hunder 1 _ rfl) hport rfl rfl, nofun⟩

theorem eq_of_leaves (h : ∀ x ∈ leaves, x.get c = x.get c') : c = c' := by
  obtain ⟨⟩ := c
  obtain ⟨⟩ := c'
  simpa [leaves] using h

end TransportConfig

namespace DatabaseConfig

variable {e : Excess} {d : Document} {c c' : DatabaseConfig}

/-- The leaves of `database`. -/
def leaves : List (Leaf DatabaseConfig) := [
  { Value := Option String
    get := path
    path := [("path", 0)]
    read := asOptionalText
    fromEnvironment? := fun env => (env "SSO_DB_PATH").map some
    fromFlags? := fun flags => flags.dbPath.map some },
  { Value := UInt32
    get := maxConnections
    path := [("max_connections", 1)]
    read := fun d => (asBelow 0x100000000 d).map UInt32.ofNat },
  { Value := UInt64
    get := busyTimeoutSecs
    path := [("busy_timeout_secs", 2)]
    read := fun d => (asBelow 0x10000000000000000 d).map UInt64.ofNat },
  { Value := UInt64
    get := tokenGcIntervalSecs
    path := [("token_gc_interval_secs", 3)]
    read := fun d => (asBelow 0x10000000000000000 d).map UInt64.ofNat }]

theorem settled (h : ofDocument e d = .ok c) : ∀ x ∈ leaves, x.Settled {} d c := by
  obtain ⟨values, h, hunder⟩ := readSection_eq_ok h
  obtain ⟨path, hpath, h⟩ := bind_eq_ok_iff.1 h
  obtain ⟨connections, hconnections, h⟩ := bind_eq_ok_iff.1 h
  obtain ⟨busy, hbusy, h⟩ := bind_eq_ok_iff.1 h
  obtain ⟨gc, hgc, h⟩ := bind_eq_ok_iff.1 h
  obtain rfl := Except.ok.inj h
  simp only [leaves, List.forall_mem_cons]
  exact ⟨.of_setting (hunder 0 _ rfl) hpath,
    .of_kept (hunder 1 _ rfl) hconnections rfl rfl,
    .of_kept (hunder 2 _ rfl) hbusy rfl rfl,
    .of_kept (hunder 3 _ rfl) hgc rfl rfl, nofun⟩

theorem eq_of_leaves (h : ∀ x ∈ leaves, x.get c = x.get c') : c = c' := by
  obtain ⟨⟩ := c
  obtain ⟨⟩ := c'
  simpa [leaves] using h

end DatabaseConfig

namespace JwtConfig

variable {e : Excess} {d : Document} {c c' : JwtConfig}

/-- The leaves of `security.jwt`. -/
def leaves : List (Leaf JwtConfig) := [
  { Value := String
    get := secret
    path := [("secret", 0)]
    read := asText
    fromEnvironment? := fun env => env "SSO_JWT_SECRET" },
  { Value := String
    get := algorithm
    path := [("algorithm", 1)]
    read := asText },
  { Value := Int
    get := accessTtlSecs
    path := [("access_ttl_secs", 2)]
    read := asInt64 },
  { Value := Int
    get := refreshTtlSecs
    path := [("refresh_ttl_secs", 3)]
    read := asInt64 },
  { Value := Int
    get := verifyEmailTtlSecs
    path := [("verify_email_ttl_secs", 4)]
    read := asInt64 },
  { Value := Int
    get := forgetPasswordTtlSecs
    path := [("forget_password_ttl_secs", 5)]
    read := asInt64 }]

theorem settled (h : ofDocument e d = .ok c) : ∀ x ∈ leaves, x.Settled {} d c := by
  obtain ⟨values, h, hunder⟩ := readSection_eq_ok h
  obtain ⟨secret, hsecret, h⟩ := bind_eq_ok_iff.1 h
  obtain ⟨algorithm, halgorithm, h⟩ := bind_eq_ok_iff.1 h
  obtain ⟨access, haccess, h⟩ := bind_eq_ok_iff.1 h
  obtain ⟨refresh, hrefresh, h⟩ := bind_eq_ok_iff.1 h
  obtain ⟨verify, hverify, h⟩ := bind_eq_ok_iff.1 h
  obtain ⟨forget, hforget, h⟩ := bind_eq_ok_iff.1 h
  obtain rfl := Except.ok.inj h
  simp only [leaves, List.forall_mem_cons]
  exact ⟨.of_setting (hunder 0 _ rfl) hsecret,
    .of_setting (hunder 1 _ rfl) halgorithm, .of_setting (hunder 2 _ rfl) haccess,
    .of_setting (hunder 3 _ rfl) hrefresh, .of_setting (hunder 4 _ rfl) hverify,
    .of_setting (hunder 5 _ rfl) hforget, nofun⟩

theorem eq_of_leaves (h : ∀ x ∈ leaves, x.get c = x.get c') : c = c' := by
  obtain ⟨⟩ := c
  obtain ⟨⟩ := c'
  simpa [leaves] using h

end JwtConfig

namespace SecurityConfig

variable {e : Excess} {d : Document} {c c' : SecurityConfig}

/-- The leaves of `security`. -/
def leaves : List (Leaf SecurityConfig) := [
  { Value := UInt32
    get := hashCost
    path := [("hash_cost", 0)]
    read := fun d => (asBelow 0x100000000 d).map UInt32.ofNat }] ++
    JwtConfig.leaves.map (.inside "jwt" 1 jwt)

theorem settled (h : ofDocument e d = .ok c) : ∀ x ∈ leaves, x.Settled {} d c := by
  obtain ⟨values, h, hunder⟩ := readSection_eq_ok h
  obtain ⟨cost, hcost, h⟩ := bind_eq_ok_iff.1 h
  obtain ⟨jwt, hjwt, h⟩ := bind_eq_ok_iff.1 h
  obtain rfl := Except.ok.inj h
  simp only [leaves, List.forall_mem_append, List.forall_mem_cons, List.forall_mem_map]
  refine ⟨⟨.of_kept (hunder 0 _ rfl) hcost rfl rfl, nofun⟩, fun x hx => ?_⟩
  exact .inside (hunder 1 _ rfl) hjwt fun d' h' => JwtConfig.settled h' x hx

theorem eq_of_leaves (h : ∀ x ∈ leaves, x.get c = x.get c') : c = c' := by
  simp only [leaves, List.forall_mem_append, List.forall_mem_cons, List.forall_mem_map] at h
  obtain ⟨⟨hcost, -⟩, hpart⟩ := h
  have hjwt := JwtConfig.eq_of_leaves hpart
  obtain ⟨⟩ := c
  obtain ⟨⟩ := c'
  simp_all

end SecurityConfig

namespace ValidationConfig

variable {e : Excess} {d : Document} {c c' : ValidationConfig}

/-- The leaves of `validation`. -/
def leaves : List (Leaf ValidationConfig) := [
  { Value := String
    get := emailPattern
    path := [("email_regexp", 0)]
    read := asText },
  { Value := List String
    get := passwordPatterns
    path := [("password_regexps", 1)]
    read := asTexts },
  { Value := List String
    get := displayNamePatterns
    path := [("display_name_regexps", 2)]
    read := asTexts },
  { Value := List String
    get := phonePatterns
    path := [("phone_regexps", 3)]
    read := asTexts },
  { Value := List String
    get := telegramPatterns
    path := [("telegram_regexps", 4)]
    read := asTexts }]

theorem settled (h : ofDocument e d = .ok c) : ∀ x ∈ leaves, x.Settled {} d c := by
  obtain ⟨values, h, hunder⟩ := readSection_eq_ok h
  obtain ⟨email, hemail, h⟩ := bind_eq_ok_iff.1 h
  obtain ⟨password, hpassword, h⟩ := bind_eq_ok_iff.1 h
  obtain ⟨name, hname, h⟩ := bind_eq_ok_iff.1 h
  obtain ⟨phone, hphone, h⟩ := bind_eq_ok_iff.1 h
  obtain ⟨telegram, htelegram, h⟩ := bind_eq_ok_iff.1 h
  obtain rfl := Except.ok.inj h
  simp only [leaves, List.forall_mem_cons]
  exact ⟨.of_setting (hunder 0 _ rfl) hemail,
    .of_setting (hunder 1 _ rfl) hpassword, .of_setting (hunder 2 _ rfl) hname,
    .of_setting (hunder 3 _ rfl) hphone, .of_setting (hunder 4 _ rfl) htelegram,
    nofun⟩

theorem eq_of_leaves (h : ∀ x ∈ leaves, x.get c = x.get c') : c = c' := by
  obtain ⟨⟩ := c
  obtain ⟨⟩ := c'
  simpa [leaves] using h

end ValidationConfig

namespace SubjectsConfig

variable {e : Excess} {d : Document} {c c' : SubjectsConfig}

/-- The leaves of `notifications.subjects`. -/
def leaves : List (Leaf SubjectsConfig) := [
  { Value := String
    get := verifyEmail
    path := [("verify_email", 0)]
    read := asText },
  { Value := String
    get := forgetPassword
    path := [("forget_password", 1)]
    read := asText }]

theorem settled (h : ofDocument e d = .ok c) : ∀ x ∈ leaves, x.Settled {} d c := by
  obtain ⟨values, h, hunder⟩ := readSection_eq_ok h
  obtain ⟨verify, hverify, h⟩ := bind_eq_ok_iff.1 h
  obtain ⟨forget, hforget, h⟩ := bind_eq_ok_iff.1 h
  obtain rfl := Except.ok.inj h
  simp only [leaves, List.forall_mem_cons]
  exact ⟨.of_setting (hunder 0 _ rfl) hverify,
    .of_setting (hunder 1 _ rfl) hforget, nofun⟩

theorem eq_of_leaves (h : ∀ x ∈ leaves, x.get c = x.get c') : c = c' := by
  obtain ⟨⟩ := c
  obtain ⟨⟩ := c'
  simpa [leaves] using h

end SubjectsConfig

namespace NotificationsConfig

variable {e : Excess} {d : Document} {c c' : NotificationsConfig}

/-- The leaves of `notifications`. -/
def leaves : List (Leaf NotificationsConfig) := [
  { Value := Option String
    get := endpoint
    path := [("endpoint", 0)]
    read := asOptionalText
    fromEnvironment? := fun env => (env "SSO_NOTIFICATIONS_ENDPOINT").map some },
  { Value := UInt64
    get := timeoutSecs
    path := [("timeout_secs", 1)]
    read := fun d => (asBelow 0x10000000000000000 d).map UInt64.ofNat }] ++
    SubjectsConfig.leaves.map (.inside "subjects" 2 subjects)

theorem settled (h : ofDocument e d = .ok c) : ∀ x ∈ leaves, x.Settled {} d c := by
  obtain ⟨values, h, hunder⟩ := readSection_eq_ok h
  obtain ⟨endpoint, hendpoint, h⟩ := bind_eq_ok_iff.1 h
  obtain ⟨timeout, htimeout, h⟩ := bind_eq_ok_iff.1 h
  obtain ⟨subjects, hsubjects, h⟩ := bind_eq_ok_iff.1 h
  obtain rfl := Except.ok.inj h
  simp only [leaves, List.forall_mem_append, List.forall_mem_cons, List.forall_mem_map]
  refine ⟨⟨.of_setting (hunder 0 _ rfl) hendpoint,
    .of_kept (hunder 1 _ rfl) htimeout rfl rfl, nofun⟩, fun x hx => ?_⟩
  exact .inside (hunder 2 _ rfl) hsubjects fun d' h' => SubjectsConfig.settled h' x hx

theorem eq_of_leaves (h : ∀ x ∈ leaves, x.get c = x.get c') : c = c' := by
  simp only [leaves, List.forall_mem_append, List.forall_mem_cons, List.forall_mem_map] at h
  obtain ⟨⟨hendpoint, htimeout, -⟩, hpart⟩ := h
  have hsubjects := SubjectsConfig.eq_of_leaves hpart
  obtain ⟨⟩ := c
  obtain ⟨⟩ := c'
  simp_all

end NotificationsConfig

namespace LoggingConfig

variable {e : Excess} {d : Document} {c c' : LoggingConfig}

/-- The leaves of `logging`. -/
def leaves : List (Leaf LoggingConfig) := [
  { Value := String
    get := level
    path := [("level", 0)]
    read := asText
    fromEnvironment? := fun env => env "SSO_LOG_LEVEL"
    fromFlags? := Config.Flags.logLevel },
  { Value := Option String
    get := filePath
    path := [("file_path", 1)]
    read := asOptionalText },
  { Value := Bool
    get := json
    path := [("json", 2)]
    read := asBool
    fromFlags? := fun flags => if flags.logJson then some true else none }]

theorem settled (h : ofDocument e d = .ok c) : ∀ x ∈ leaves, x.Settled {} d c := by
  obtain ⟨values, h, hunder⟩ := readSection_eq_ok h
  obtain ⟨level, hlevel, h⟩ := bind_eq_ok_iff.1 h
  obtain ⟨path, hpath, h⟩ := bind_eq_ok_iff.1 h
  obtain ⟨json, hjson, h⟩ := bind_eq_ok_iff.1 h
  obtain rfl := Except.ok.inj h
  simp only [leaves, List.forall_mem_cons]
  exact ⟨.of_setting (hunder 0 _ rfl) hlevel, .of_setting (hunder 1 _ rfl) hpath,
    .of_setting (hunder 2 _ rfl) hjson, nofun⟩

theorem eq_of_leaves (h : ∀ x ∈ leaves, x.get c = x.get c') : c = c' := by
  obtain ⟨⟩ := c
  obtain ⟨⟩ := c'
  simpa [leaves] using h

end LoggingConfig

namespace Config

variable {e : Excess} {d : Document} {c c' : Config}

/-- The leaves of all settings. -/
def leaves : List (Leaf Config) :=
  TransportConfig.leaves.map (.inside "transport" 0 transport) ++
    DatabaseConfig.leaves.map (.inside "database" 1 database) ++
    SecurityConfig.leaves.map (.inside "security" 2 security) ++
    ValidationConfig.leaves.map (.inside "validation" 3 validation) ++
    NotificationsConfig.leaves.map (.inside "notifications" 4 notifications) ++
    LoggingConfig.leaves.map (.inside "logging" 5 logging)

/-- Leaves are leaves of the sections. -/
theorem forall_leaves {p : Leaf Config → Prop} : (∀ x ∈ leaves, p x) ↔
    (∀ x ∈ TransportConfig.leaves, p (x.inside "transport" 0 transport)) ∧
    (∀ x ∈ DatabaseConfig.leaves, p (x.inside "database" 1 database)) ∧
    (∀ x ∈ SecurityConfig.leaves, p (x.inside "security" 2 security)) ∧
    (∀ x ∈ ValidationConfig.leaves, p (x.inside "validation" 3 validation)) ∧
    (∀ x ∈ NotificationsConfig.leaves, p (x.inside "notifications" 4 notifications)) ∧
    ∀ x ∈ LoggingConfig.leaves, p (x.inside "logging" 5 logging) := by
  simp only [leaves, List.forall_mem_append, List.forall_mem_map, and_assoc]

/-- **A document that is accepted settles every leaf.** -/
theorem settled (h : ofDocument e d = .ok c) : ∀ x ∈ leaves, x.Settled {} d c := by
  obtain ⟨values, h, hunder⟩ := readSection_eq_ok h
  obtain ⟨transport, htransport, h⟩ := bind_eq_ok_iff.1 h
  obtain ⟨database, hdatabase, h⟩ := bind_eq_ok_iff.1 h
  obtain ⟨security, hsecurity, h⟩ := bind_eq_ok_iff.1 h
  obtain ⟨validation, hvalidation, h⟩ := bind_eq_ok_iff.1 h
  obtain ⟨notifications, hnotifications, h⟩ := bind_eq_ok_iff.1 h
  obtain ⟨logging, hlogging, h⟩ := bind_eq_ok_iff.1 h
  obtain rfl := Except.ok.inj h
  refine forall_leaves.2 ⟨fun x hx => ?_, fun x hx => ?_, fun x hx => ?_, fun x hx => ?_,
    fun x hx => ?_, fun x hx => ?_⟩
  · exact .inside (hunder 0 _ rfl) htransport fun d' h' => TransportConfig.settled h' x hx
  · exact .inside (hunder 1 _ rfl) hdatabase fun d' h' => DatabaseConfig.settled h' x hx
  · exact .inside (hunder 2 _ rfl) hsecurity fun d' h' => SecurityConfig.settled h' x hx
  · exact .inside (hunder 3 _ rfl) hvalidation fun d' h' => ValidationConfig.settled h' x hx
  · exact .inside (hunder 4 _ rfl) hnotifications fun d' h' => NotificationsConfig.settled h' x hx
  · exact .inside (hunder 5 _ rfl) hlogging fun d' h' => LoggingConfig.settled h' x hx

/-- **Settings are no more than their leaves.** -/
theorem eq_of_leaves (h : ∀ x ∈ leaves, x.get c = x.get c') : c = c' := by
  obtain ⟨htransport, hdatabase, hsecurity, hvalidation, hnotifications, hlogging⟩ :=
    forall_leaves.1 h
  have htransport := TransportConfig.eq_of_leaves htransport
  have hdatabase := DatabaseConfig.eq_of_leaves hdatabase
  have hsecurity := SecurityConfig.eq_of_leaves hsecurity
  have hvalidation := ValidationConfig.eq_of_leaves hvalidation
  have hnotifications := NotificationsConfig.eq_of_leaves hnotifications
  have hlogging := LoggingConfig.eq_of_leaves hlogging
  obtain ⟨⟩ := c
  obtain ⟨⟩ := c'
  simp_all

end Config

end SignOn
