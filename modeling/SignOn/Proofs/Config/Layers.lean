import SignOn.CommandLine.Startup
import SignOn.Proofs.Config.Leaves
import SignOn.Proofs.Text.Decimal
/-!
# The highest layer counts

Every setting has the value that the highest layer gives it which gives it
any: the command line, the environment, the document, and below them the
defaults. No setting depends on what is said of another:
`Config.highest_layer_counts`.
-/

namespace SignOn

open Document

namespace Config

variable {c : Config} {env : Environment} {flags : Flags}

/-! ## The upper layers -/

theorem elim_eq_getD_map {α β : Type} (o : Option α) (b : β) (f : α → β) :
    o.elim b f = (o.map f).getD b := by
  cases o <;> rfl

/-- **The environment gives leaves their values**, and leaves the others. -/
theorem get_withEnvironment (c : Config) (env : Environment) :
    ∀ x ∈ leaves, x.get (c.withEnvironment env) = (x.fromEnvironment? env).getD (x.get c) := by
  refine forall_leaves.2 ⟨?_, ?_, ?_, ?_, ?_, ?_⟩
  · simp [TransportConfig.leaves, Leaf.inside, withEnvironment, elim_eq_getD_map,
      TransportConfig.portVariable?]
  · simp [DatabaseConfig.leaves, Leaf.inside, withEnvironment, elim_eq_getD_map]
  · simp [SecurityConfig.leaves, JwtConfig.leaves, Leaf.inside, withEnvironment]
  · simp [ValidationConfig.leaves, Leaf.inside, withEnvironment]
  · simp [NotificationsConfig.leaves, SubjectsConfig.leaves, Leaf.inside, withEnvironment,
      elim_eq_getD_map]
  · simp [LoggingConfig.leaves, Leaf.inside, withEnvironment]

/-- **So does the command line.** -/
theorem get_withFlags (c : Config) (flags : Flags) :
    ∀ x ∈ leaves, x.get (c.withFlags flags) = (x.fromFlags? flags).getD (x.get c) := by
  refine forall_leaves.2 ⟨?_, ?_, ?_, ?_, ?_, ?_⟩
  · simp [TransportConfig.leaves, Leaf.inside, withFlags]
  · simp [DatabaseConfig.leaves, Leaf.inside, withFlags, elim_eq_getD_map]
  · simp [SecurityConfig.leaves, JwtConfig.leaves, Leaf.inside, withFlags]
  · simp [ValidationConfig.leaves, Leaf.inside, withFlags]
  · simp [NotificationsConfig.leaves, SubjectsConfig.leaves, Leaf.inside, withFlags]
  · cases hjson : flags.logJson <;> simp [LoggingConfig.leaves, Leaf.inside, withFlags, hjson]

/-- **Once is enough.** -/
theorem withEnvironment_idem (c : Config) (env : Environment) :
    (c.withEnvironment env).withEnvironment env = c.withEnvironment env := by
  refine eq_of_leaves fun x hx => ?_
  rw [get_withEnvironment _ _ x hx, get_withEnvironment _ _ x hx]
  cases x.fromEnvironment? env <;> rfl

/-- **A port is given by digits**, perhaps after a plus sign, and it is the
number that they write; no other text gives one. -/
theorem portVariable?_eq_some_iff {port : UInt16} :
    TransportConfig.portVariable? env = some port ↔ ∃ text digits, env "SSO_PORT" = some text ∧
      (text.toList = digits ∨ text.toList = '+' :: digits) ∧ digits ≠ [] ∧
      (∀ ch ∈ digits, ch.isDigit = true) ∧ Nat.ofDigitChars 10 digits 0 = port.toNat := by
  simp only [TransportConfig.portVariable?, Option.map_eq_some_iff, Option.bind_eq_some_iff,
    decimalBelow?_eq_some_iff]
  constructor
  · rintro ⟨n, ⟨text, htext, digits, hform, hne, hdigits, rfl, hlt⟩, rfl⟩
    exact ⟨text, digits, htext, hform, hne, hdigits, (UInt16.toNat_ofNat_of_lt' hlt).symm⟩
  · rintro ⟨text, digits, htext, hform, hne, hdigits, hport⟩
    exact ⟨_, ⟨text, htext, digits, hform, hne, hdigits, rfl, hport ▸ port.toNat_lt⟩,
      hport ▸ UInt16.ofNat_toNat⟩

/-! ## The layers together -/

/-- A text that is accepted is read as a document, which settles the
leaves. -/
theorem settled_of_ofToml? {content : String} (h : ofToml? content = some c) :
    ∃ d, Toml.read content = some d ∧ ∀ x ∈ leaves, x.Settled {} d c := by
  obtain ⟨d, hd, hc⟩ := Option.bind_eq_some_iff.1 h
  refine ⟨d, hd, ?_⟩
  cases hdocument : ofDocument .ignored d with
  | error e =>
    rw [hdocument] at hc
    cases hc
  | ok c' =>
    rw [hdocument] at hc
    obtain rfl := Option.some.inj hc
    exact settled hdocument

/-- A sequence of two succeeds where both do, in a world that is asked at
once. -/
theorem run_bind_eq_ok {ε α β : Type} {x : ExceptT ε Id α} {f : α → ExceptT ε Id β} {b : β}
    (h : (x >>= f).run = (.ok b : Except ε β)) :
    ∃ a, x.run = (.ok a : Except ε α) ∧ (f a).run = (.ok b : Except ε β) := by
  rw [ExceptT.run_bind] at h
  generalize x.run = y at h ⊢
  cases y with
  | error e => cases h
  | ok a => exact ⟨a, rfl, h⟩

/-- A file that is read is the bytes of a text of settings. -/
theorem ofFile_eq_ok {path : String} {bytes : List UInt8} {c : Config}
    (h : ofFile path bytes = .ok c) :
    ∃ content, bytes = Utf8.encode content ∧ ofToml? content = some c := by
  unfold ofFile at h
  split at h
  · cases h
  · next content hcontent =>
    split at h
    · cases h
    · next c' hc' =>
      obtain rfl := Except.ok.inj h
      exact ⟨content, Utf8.decode_eq_some_iff.1 hcontent, hc'⟩

/-- **The command starts with the layers in their order**, the lowest being
the file that it is told of, or the defaults. -/
theorem settings_eq_ok {s : Startup.Surroundings Id} {a : CommandLine.Arguments} {r : Config}
    (h : (Startup.settings s a).run = (.ok r : Except ConfigError Config)) :
    ∃ c, r = (c.withEnvironment s.environment).withFlags a.flags ∧
      ((a.config = none ∧ c = {}) ∨ ∃ path content, a.config = some path ∧
        s.fileContent path = (.ok (Utf8.encode content) : Except String (List UInt8)) ∧
        ofToml? content = some c) := by
  cases hconfig : a.config with
  | none =>
    simp only [Startup.settings, hconfig] at h
    obtain ⟨c, hc, h⟩ := run_bind_eq_ok h
    obtain ⟨-, -, h⟩ := run_bind_eq_ok h
    exact ⟨c, (Except.ok.inj h).symm, .inl ⟨rfl, (Except.ok.inj hc).symm⟩⟩
  | some path =>
    simp only [Startup.settings, hconfig] at h
    obtain ⟨result, hresult, h⟩ := run_bind_eq_ok h
    cases result with
    | error reason => cases h
    | ok bytes =>
      obtain ⟨c, hc, hrest⟩ := run_bind_eq_ok h
      obtain ⟨content, rfl, hcontent⟩ := ofFile_eq_ok hc
      obtain ⟨-, -, hlast⟩ := run_bind_eq_ok hrest
      exact ⟨c, (Except.ok.inj hlast).symm,
        .inr ⟨path, content, rfl, Except.ok.inj hresult, hcontent⟩⟩

/-- **The highest layer counts.** Over a document that is accepted, and with
any environment and command line, every setting has the value that the
command line gives it, or else the environment, or else the document, or
else the default. What the document writes is always a value, what it leaves
out is left at its default, whatever else it writes, and the settings are
nothing more than these. The port variable counts if it writes a port. The
environment once more changes nothing. And these are the settings that the
command starts with. -/
theorem highest_layer_counts {content : String} {c : Config} (h : ofToml? content = some c)
    (env : Environment) (flags : Flags) :
    let result := (c.withEnvironment env).withFlags flags
    (∃ d, Toml.read content = some d ∧
      (∀ x ∈ leaves, x.get result = (x.fromFlags? flags).getD
        ((x.fromEnvironment? env).getD ((x.inDocument? d).getD (x.get {})))) ∧
      (∀ x ∈ leaves, (d.follow x.path).isSome → (x.inDocument? d).isSome) ∧
      ∀ x ∈ leaves, d.follow x.path = none → x.get c = x.get {}) ∧
    (∀ other, (∀ x ∈ leaves, x.get other = x.get result) → other = result) ∧
    (∀ port, TransportConfig.portVariable? env = some port ↔
      ∃ text digits, env "SSO_PORT" = some text ∧
        (text.toList = digits ∨ text.toList = '+' :: digits) ∧ digits ≠ [] ∧
        (∀ ch ∈ digits, ch.isDigit = true) ∧ Nat.ofDigitChars 10 digits 0 = port.toNat) ∧
    (∀ c : Config, (c.withEnvironment env).withEnvironment env = c.withEnvironment env) ∧
    ∀ (s : Startup.Surroundings Id) (a : CommandLine.Arguments) path r,
      s.environment = env → a.flags = flags → a.config = some path →
      s.fileContent path = (.ok (Utf8.encode content) : Except String (List UInt8)) →
      (Startup.settings s a).run = (.ok r : Except ConfigError Config) → r = result := by
  intro result
  obtain ⟨d, hd, hsettled⟩ := settled_of_ofToml? h
  refine ⟨⟨d, hd, fun x hx => ?_, fun x hx => (hsettled x hx).readable, fun x hx hnone => ?_⟩,
    fun other hother => eq_of_leaves hother, fun port => portVariable?_eq_some_iff,
    fun c => c.withEnvironment_idem env, fun s a path r henv hflags hpath hfile hrun => ?_⟩
  · rw [get_withFlags _ _ x hx, get_withEnvironment _ _ x hx, (hsettled x hx).value]
  · rw [(hsettled x hx).value, Leaf.inDocument?, hnone]
    rfl
  · obtain ⟨c', rfl, ⟨hconfig, -⟩ | ⟨path', content', hconfig, hfile', hc'⟩⟩ := settings_eq_ok hrun
    · rw [hpath] at hconfig
      cases hconfig
    · obtain rfl := Option.some.inj (hpath.symm.trans hconfig)
      obtain rfl := Utf8.encode_inj (Except.ok.inj (hfile.symm.trans hfile'))
      obtain rfl := Option.some.inj (h.symm.trans hc')
      rw [henv, hflags]

/-- A port variable that is no port leaves the port of the document, and the
section of the port leaves the number of connections. -/
theorem highest_layer_counts_plain :
    let content := "[transport]\nhost = \"10.0.0.1\"\nport = 8080\n"
    let env : Environment := fun name => if name = "SSO_PORT" then some "65536" else none
    let flags : Flags := { host := some "localhost" }
    ∃ c, ofToml? content = some c ∧
      let result := (c.withEnvironment env).withFlags flags
      result.transport.host = "localhost" ∧ result.transport.port = 8080 ∧
        result.database.maxConnections = 5 := by
  intro content env flags
  let c : Config := { transport := ⟨"10.0.0.1", 8080⟩ }
  have h : ofToml? content = some c := by decide +kernel
  obtain ⟨⟨d, hd, hvalue, -, -⟩, -⟩ := highest_layer_counts h env flags
  -- what the document writes at a place
  have hplace {α : Type} {path : List (String × Nat)} {read : Document → Option α} {v : Option α}
      (hv : ((Toml.read content).bind fun d => (d.follow path).bind read) = v) :
      (d.follow path).bind read = v := by
    rwa [hd] at hv
  have hport : ((c.withEnvironment env).withFlags flags).transport.port =
      Option.getD none ((TransportConfig.portVariable? env).getD
        (((d.follow [("transport", 0), ("port", 1)]).bind
          fun d => (asBelow 0x10000 d).map UInt16.ofNat).getD 50051)) :=
    hvalue leaves[1] (List.getElem_mem (by decide))
  have hconnections : ((c.withEnvironment env).withFlags flags).database.maxConnections =
      Option.getD none (Option.getD none
        (((d.follow [("database", 1), ("max_connections", 1)]).bind
          fun d => (asBelow 0x100000000 d).map UInt32.ofNat).getD 5)) :=
    hvalue leaves[3] (List.getElem_mem (by decide))
  refine ⟨c, h, hvalue leaves[0] (List.getElem_mem (by decide)), ?_, ?_⟩
  · rw [hport, hplace (v := some 8080) (by decide +kernel)]
    decide +kernel
  · rw [hconnections, hplace (v := none) (by decide +kernel)]
    rfl

end Config

end SignOn
