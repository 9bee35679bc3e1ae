import SignOn.CommandLine.Startup
import SignOn.Proofs.Config.Host
/-!
# Addresses to listen on

The port is written behind the host, and what is read from that is the host
that was written and that port (`Address.ofString?_append_port`), even if
the host has colons of its own. So there is an address exactly if the host is
one in numbers, `TransportConfig.address_eq_ok_iff`. The judge of settings
looks at neither of the two, and settings that pass may name a host that the
command cannot listen on: `Config.checked_address_iff`.
-/

namespace SignOn

namespace Address

open Host

variable {a : Address} {port : UInt16} {host : Host} {name : String} {cs text rest : List Char}

/-! ## Hosts with a port behind them -/

/-- **A port is a colon and digits** that write it, perhaps with zeros in
front. -/
theorem readPort_eq_some_iff : readPort cs = some (port, rest) ↔
    ∃ digits, cs = ':' :: (digits ++ rest) ∧ digits ≠ [] ∧ (∀ c ∈ digits, c.isDigit = true) ∧
      port.toNat = Nat.ofDigitChars 10 digits 0 ∧ Stops Char.isDigit rest := by
  simp only [readPort, Option.bind_eq_bind, Option.bind_eq_some_iff, readChar_eq_some_iff,
    decimal?_eq_some_iff_ofDigitChars, Option.guard_eq_some', Option.pure_def, Option.some.injEq,
    Prod.mk.injEq]
  constructor
  · rintro ⟨after, rfl, n, hn, -, hlt, rfl, hrest⟩
    obtain ⟨digits, rest', hspan, rfl, -, hstops⟩ := exists_spanDigits Char.isDigit after
    rw [hspan] at hn hrest
    obtain ⟨hne, hdigits, hvalue⟩ := hn
    obtain rfl : rest' = rest := hrest
    exact ⟨digits, rfl, hne, hdigits, (UInt16.toNat_ofNat_of_lt' hlt).trans hvalue, hstops⟩
  · rintro ⟨digits, rfl, hne, hdigits, hvalue, hstops⟩
    refine ⟨_, rfl, port.toNat, ?_⟩
    rw [spanDigits_eq_iff.2 ⟨rfl, hdigits, hstops⟩]
    exact ⟨⟨hne, hdigits, hvalue⟩, (), port.toNat_lt, UInt16.ofNat_toNat, rfl⟩

/-- The host comes first and then the port. -/
theorem readWith_eq_some_iff {readHost : List Char → Option (Host × List Char)} :
    readWith readHost cs = some (a, rest) ↔ ∃ rest', readHost cs = some (a.host, rest') ∧
      readPort rest' = some (a.port, rest) := by
  obtain ⟨host, port⟩ := a
  simp only [readWith, Option.bind_eq_bind, Option.bind_eq_some_iff, Prod.exists, Option.pure_def,
    Option.some.injEq, Prod.mk.injEq, Address.mk.injEq]
  constructor
  · rintro ⟨_, rest', hhost, _, _, hport, ⟨rfl, rfl⟩, rfl⟩
    exact ⟨rest', hhost, hport⟩
  · rintro ⟨rest', hhost, hport⟩
    exact ⟨host, rest', hhost, port, rest, hport, ⟨rfl, rfl⟩, rfl⟩

/-- **An address is written as a host with a port behind it.** -/
theorem ofString?_eq_some_iff : ofString? name = some a ↔
    ∃ text portText, name.toList = text ++ portText ∧ a.host.Spells text ∧
      readPort portText = some (a.port, []) := by
  have hread : ofString? name = some a ↔
      (readWith readV4 name.toList).or (readWith readV6 name.toList) = some (a, []) := by
    unfold ofString?
    split
    · next h => simp [h]
    · next h => simpa using fun h' => h a h'
  rw [hread, Option.or_eq_some_iff]
  constructor
  · rintro (h | ⟨-, h⟩)
    · obtain ⟨rest, hhost, hport⟩ := readWith_eq_some_iff.1 h
      obtain ⟨text, hspells, htext⟩ := spells_of_readV4 hhost
      exact ⟨text, rest, htext, hspells, hport⟩
    · obtain ⟨rest, hhost, hport⟩ := readWith_eq_some_iff.1 h
      obtain ⟨text, hspells, htext⟩ := spells_of_readV6 hhost
      exact ⟨text, rest, htext, hspells, hport⟩
  · rintro ⟨text, rest, htext, hspells, hport⟩
    rw [htext]
    obtain ⟨host, port⟩ := a
    cases hspells with
    | v4 o =>
      obtain ⟨digits, rfl, -⟩ := readPort_eq_some_iff.1 hport
      exact .inl (readWith_eq_some_iff.2 ⟨_, readV4_append o (stops_cons.2 rfl), hport⟩)
    | v6 h hzone =>
      -- a bracket is no digit
      have hnone (cs : List Char) : readWith readV4 ('[' :: cs) = none := by
        rw [readWith, readV4, readOctets_of_stops (stops_cons.2 rfl)]
        rfl
      exact .inr ⟨hnone _, readWith_eq_some_iff.2 ⟨rest, readV6_append h hzone rest, hport⟩⟩

/-- A text is cut at its last colon in one way only. -/
theorem append_colon_inj {before before' after after' : List Char} (hafter : ':' ∉ after)
    (hafter' : ':' ∉ after') (h : before ++ ':' :: after = before' ++ ':' :: after') :
    before = before' ∧ after = after' := by
  rcases List.append_eq_append_iff.1 h with ⟨m, rfl, hm⟩ | ⟨m, rfl, hm⟩
  · cases m with
    | nil => exact ⟨(List.append_nil before).symm, (List.cons.inj hm).2⟩
    | cons c m =>
      rw [(List.cons.inj hm).2] at hafter
      exact absurd (by simp) hafter
  · cases m with
    | nil => exact ⟨List.append_nil before', (List.cons.inj hm).2.symm⟩
    | cons c m =>
      rw [(List.cons.inj hm).2] at hafter'
      exact absurd (by simp) hafter'

theorem colon_notMem_of_isDigit {digits : List Char} (h : ∀ c ∈ digits, c.isDigit = true) :
    ':' ∉ digits :=
  fun hmem => absurd (h ':' hmem) (by decide)

/-- **Where the port is written behind a name**, the host is the name and
the port is that port: a colon or a port in the name leads to no other. -/
theorem ofString?_append_port : ofString? (name ++ ":" ++ toString port.toNat) = some a ↔
    a.host.Spells name.toList ∧ a.port = port := by
  have hdigits : ∀ c ∈ Nat.toDigits 10 port.toNat, c.isDigit = true :=
    fun c => isDigit_of_mem_toDigits
  have hname : (name ++ ":" ++ toString port.toNat).toList =
      name.toList ++ ':' :: Nat.toDigits 10 port.toNat := by
    simp
  rw [ofString?_eq_some_iff, hname]
  constructor
  · rintro ⟨text, _, htext, hspells, hport⟩
    -- the port is what comes after the last colon, in the text that is read and in this one
    obtain ⟨digits, rfl, -, hdigits', hvalue, -⟩ := readPort_eq_some_iff.1 hport
    rw [List.append_nil] at htext
    obtain ⟨rfl, rfl⟩ := append_colon_inj (colon_notMem_of_isDigit hdigits)
      (colon_notMem_of_isDigit hdigits') htext
    rw [Nat.ofDigitChars_ten_toDigits] at hvalue
    exact ⟨hspells, UInt16.toNat_inj.1 hvalue⟩
  · rintro ⟨hspells, rfl⟩
    refine ⟨name.toList, _, rfl, hspells, readPort_eq_some_iff.2 ⟨_, by rw [List.append_nil], ?_⟩⟩
    exact ⟨Nat.toDigits_ne_nil, hdigits, Nat.ofDigitChars_ten_toDigits.symm, stops_nil⟩

end Address

namespace TransportConfig

variable {c : TransportConfig} {a : Address}

/-- **The address to listen on** is the host that is written, with the port
as it is set. -/
theorem address_eq_ok_iff : c.address = .ok a ↔ a.host.Spells c.host.toList ∧ a.port = c.port := by
  rw [← Address.ofString?_append_port, address]
  split
  · next h => rw [h, Except.ok.injEq, Option.some.injEq]
  · next h =>
    rw [h]
    simp

/-- **There is none where no host is written.** -/
theorem address_eq_error (h : ∀ host : Host, ¬ host.Spells c.host.toList) :
    c.address = .error .addressMalformed := by
  rw [address]
  split
  · next a ha => exact absurd (Address.ofString?_append_port.1 ha).1 (h a.host)
  · rfl

/-- **Groups have an address in brackets only.** -/
theorem address_of_groups {groups : Vector UInt16 8} {literal : String}
    (h : Host.SpellsAll groups literal.toList) (port : UInt16) :
    address ⟨literal, port⟩ = .error .addressMalformed ∧
      address ⟨"[" ++ literal ++ "]", port⟩ = .ok ⟨.v6 groups 0, port⟩ := by
  refine ⟨address_eq_error h.not_spells, address_eq_ok_iff.2 ⟨?_, rfl⟩⟩
  have hbrackets : ("[" ++ literal ++ "]").toList = '[' :: (literal.toList ++ ([] ++ [']'])) := by
    simp
  rw [hbrackets]
  exact .v6 h .none

end TransportConfig

namespace Startup

variable {m : Type → Type} [Monad m] [LawfulMonad m] {c : Config} {e : ConfigError}

/-- **Without an address the service does not start**: what comes after the
log is opened is not begun, so no store is opened and nothing is served. -/
theorem run_start_of_address_eq_error (h : c.transport.address = .error e) (s : Surroundings m) :
    (start s c).run = (fun
      | .error reason => .error ("I/O error: " ++ reason)
      | .ok () => .error e.message) <$> s.openLog c.logging := by
  rw [start, ExceptT.run_bind, ExceptT.run_mk, bind_map_left, map_eq_pure_bind]
  refine bind_congr fun opened => ?_
  cases opened with
  | error reason => rfl
  | ok _ => simp only [h, Except.mapError, ExceptT.run_bind, ExceptT.run_mk, pure_bind]

end Startup

namespace Config

/-- **Settings that pass have an address exactly if their host is written in
numbers**, and then it is that host with the port as it is set. They pass
whatever the host and the port are. With any other host, such as a name, or
groups without brackets, the service does not start: it ends with an error as
soon as its log is open. -/
theorem checked_address_iff {c : Config} (hc : c.check = .ok ()) :
    (∀ t : TransportConfig, ({ c with transport := t } : Config).check = .ok ()) ∧
    (∀ a, c.transport.address = .ok a ↔
      a.host.Spells c.transport.host.toList ∧ a.port = c.transport.port) ∧
    ((∀ host : Host, ¬ host.Spells c.transport.host.toList) →
      c.transport.address = .error .addressMalformed ∧
      ∀ {m : Type → Type} [Monad m] [LawfulMonad m] (s : Startup.Surroundings m),
        (Startup.start s c).run = (fun
          | .error reason => .error ("I/O error: " ++ reason)
          | .ok () => .error ConfigError.addressMalformed.message) <$> s.openLog c.logging) := by
  refine ⟨fun t => hc, fun a => TransportConfig.address_eq_ok_iff, fun hnone => ?_⟩
  have haddress := TransportConfig.address_eq_error hnone
  exact ⟨haddress, fun s => Startup.run_start_of_address_eq_error haddress s⟩

/-- Settings with the name of a host. -/
def namedConfig : Config where
  transport := { host := "localhost" }
  security := { jwt := { secret := "secret" } }

/-- They pass and have no address; with groups for a host they pass, and have
an address if the groups are in brackets. -/
theorem checked_address_iff_named : namedConfig.check = .ok () ∧
    namedConfig.transport.address = .error .addressMalformed ∧
    (∀ s : Startup.Surroundings Id, s.openLog namedConfig.logging = .ok () →
      (Startup.start s namedConfig).run = .error
        "Configuration error: Invalid transport address: invalid socket address syntax") ∧
    ({ namedConfig with transport := ⟨"::1", 50051⟩ } : Config).check = .ok () ∧
    TransportConfig.address ⟨"::1", 50051⟩ = .error .addressMalformed ∧
    TransportConfig.address ⟨"[::1]", 50051⟩ = .ok ⟨.v6 #v[0, 0, 0, 0, 0, 0, 0, 1] 0, 50051⟩ := by
  have hc : namedConfig.check = .ok () := check_eq_ok_iff.2 (by decide +kernel)
  obtain ⟨hany, -, hnone⟩ := checked_address_iff hc
  have hname : ∀ host : Host, ¬ host.Spells namedConfig.transport.host.toList :=
    Host.not_spells_of_mem List.mem_cons_self rfl (by decide) (by decide)
  have hone : Host.SpellsGroup 1 ['1'] :=
    ⟨by decide, List.forall_mem_singleton.2 rfl, by decide⟩
  have hgroups : Host.SpellsAll #v[0, 0, 0, 0, 0, 0, 0, 1] "::1".toList :=
    .gap (.inl ⟨rfl, rfl, rfl⟩) (.inr (.last hone)) (by decide) rfl
  obtain ⟨hbare, hbrackets⟩ := TransportConfig.address_of_groups hgroups 50051
  obtain ⟨haddress, hstart⟩ := hnone hname
  refine ⟨hc, haddress, fun s hlog => ?_, hany _, hbare, hbrackets⟩
  rw [hstart s, hlog]
  rfl

end Config

end SignOn
