import SignOn.Proofs.Rpc.Timeout
import SignOn.Proofs.Text.Utf8
import SignOn.Rpc.Endpoint
/-!
# The request that metadata describe

Of several values of a key the first one counts, and it counts if it is
text. A request has the deadline that the text of `grpc-timeout` writes,
and no other text gives it one; it has the name that `x-request-id` gives,
or a fresh one: `Metadata.timeouts_exact`.
-/

namespace SignOn

namespace Metadata

variable {pairs : List (String × List UInt8)} {m : Metadata} {key s : String}
variable {value : List UInt8}

/-- The first value that pairs give to a key, in whatever case the key is
written. -/
def FirstValue (pairs : List (String × List UInt8)) (key : String) (value : List UInt8) : Prop :=
  ∃ before written after, pairs = before ++ (written, value) :: after ∧
    written.map Char.toLower = key ∧ ∀ p ∈ before, p.1.map Char.toLower ≠ key

/-- A value that is text: visible characters of ASCII, spaces and tabs. -/
def Readable (value : List UInt8) : Prop :=
  ∀ b ∈ value, b = 9 ∨ 32 ≤ b ∧ b < 127

instance : DecidablePred Readable := fun value =>
  inferInstanceAs (Decidable (∀ b ∈ value, b = 9 ∨ 32 ≤ b ∧ b < 127))

/-! ## Values -/

/-- One pair more. -/
theorem add_eq_ok_iff {m' : Metadata} : m.add key value = .ok m' ↔
    isKey (key.map Char.toLower) = true ∧ value.all isValueByte = true ∧
      m' = ⟨m.entries ++ [(key.map Char.toLower, value)]⟩ := by
  unfold add
  by_cases hkey : isKey (key.map Char.toLower) = true
  · by_cases hvalue : value.all isValueByte = true
    · simp [hkey, hvalue, eq_comm]
    · simp [hkey, hvalue]
  · simp [hkey]

/-- More pairs go behind those that are there. -/
theorem entries_of_foldlM {m₀ : Metadata}
    (h : pairs.foldlM (fun m p => m.add p.1 p.2) m₀ = .ok m) :
    m.entries = m₀.entries ++ pairs.map (fun p => (p.1.map Char.toLower, p.2)) ∧
      ∀ p ∈ pairs, p.2.all isValueByte = true := by
  induction pairs generalizing m₀ with
  | nil =>
    obtain rfl : m₀ = m := Except.ok.inj h
    simp
  | cons p pairs ih =>
    rw [List.foldlM_cons] at h
    cases hadd : m₀.add p.1 p.2 with
    | error e =>
      rw [hadd] at h
      cases h
    | ok m₁ =>
      rw [hadd] at h
      obtain ⟨-, hvalue, rfl⟩ := add_eq_ok_iff.1 hadd
      obtain ⟨hentries, hvalues⟩ := ih h
      refine ⟨?_, List.forall_mem_cons.2 ⟨hvalue, hvalues⟩⟩
      rw [hentries, List.map_cons, List.append_assoc, List.singleton_append]

/-- **Metadata hold all pairs**, in their order and with their keys in
lower case. -/
theorem entries_of_ofPairs (h : ofPairs pairs = .ok m) :
    m.entries = pairs.map (fun p => (p.1.map Char.toLower, p.2)) ∧
      ∀ p ∈ pairs, p.2.all isValueByte = true := by
  simpa using entries_of_foldlM h

/-- What is looked up is the first value. -/
theorem lookup_eq_some_iff (h : ofPairs pairs = .ok m) :
    m.entries.lookup key = some value ↔ FirstValue pairs key value := by
  rw [(entries_of_ofPairs h).1, List.lookup_eq_some_iff]
  constructor
  · rintro ⟨l₁, l₂, heq, hbefore⟩
    obtain ⟨before, rest, rfl, rfl, hrest⟩ := List.map_eq_append_iff.1 heq
    obtain ⟨⟨written, v⟩, after, rfl, hpair, -⟩ := List.map_eq_cons_iff.1 hrest
    obtain ⟨hkey, rfl⟩ := Prod.mk.inj hpair
    refine ⟨before, written, after, rfl, hkey, fun p hp hp' => ?_⟩
    have hne := hbefore _ (List.mem_map_of_mem hp)
    exact absurd hp'.symm (by simpa using hne)
  · rintro ⟨before, written, after, rfl, rfl, hbefore⟩
    refine ⟨_, _, List.map_append.trans (congrArg _ List.map_cons), fun p hp => ?_⟩
    obtain ⟨q, hq, rfl⟩ := List.mem_map.1 hp
    simpa using (hbefore q hq).symm

/-- Of the bytes that a value may hold, those that are ASCII are text. -/
theorem readable_iff (h : value.all isValueByte = true) :
    Readable value ↔ value.all (· < 128) = true := by
  rw [List.all_eq_true] at h ⊢
  refine forall_congr' fun b => imp_congr_right fun hb => ?_
  have hbyte := h b hb
  simp only [isValueByte, Bool.or_eq_true, beq_iff_eq, Bool.and_eq_true, decide_eq_true_eq,
    bne_iff_ne, ne_eq, UInt8.le_iff_toNat_le, UInt8.lt_iff_toNat_lt, ← UInt8.toNat_inj] at hbyte ⊢
  change _ ∨ 32 ≤ b.toNat ∧ ¬ b.toNat = 127 at hbyte
  show b.toNat = 9 ∨ 32 ≤ b.toNat ∧ b.toNat < 127 ↔ b.toNat < 128
  change b.toNat = 9 ∨ _ at hbyte
  omega

/-- **The text of a key** is its first value, if that is text. -/
theorem text?_eq_some_iff (h : ofPairs pairs = .ok m) :
    m.text? key = some s ↔
      FirstValue pairs key (Utf8.encode s) ∧ Readable (Utf8.encode s) := by
  have hvalue {v : List UInt8} (hv : FirstValue pairs key v) : v.all isValueByte = true := by
    obtain ⟨before, written, after, rfl, -, -⟩ := hv
    exact (entries_of_ofPairs h).2 (written, v) (by simp)
  have htext : m.text? key = some s ↔ ∃ v, m.entries.lookup key = some v ∧
      v.all (· < 128) = true ∧ Utf8.decode v = some s := by
    simp [text?, Option.bind_eq_some_iff, Option.guard_eq_some']
  rw [htext]
  constructor
  · rintro ⟨v, hlookup, hascii, hdecode⟩
    have hfirst := (lookup_eq_some_iff h).1 hlookup
    obtain rfl := Utf8.decode_eq_some_iff.1 hdecode
    exact ⟨hfirst, (readable_iff (hvalue hfirst)).2 hascii⟩
  · rintro ⟨hfirst, hreadable⟩
    exact ⟨_, (lookup_eq_some_iff h).2 hfirst, (readable_iff (hvalue hfirst)).1 hreadable,
      Utf8.decode_encode s⟩

/-! ## Requests -/

/-- A value that is text is the bytes of a text. -/
theorem Readable.exists_encode (h : Readable value) : ∃ s, Utf8.encode s = value := by
  refine ⟨_, Utf8.encode_ofList_map_ofNat fun b hb => ?_⟩
  rcases h b hb with rfl | ⟨-, hlt⟩
  · decide
  · exact Nat.lt_trans (UInt8.lt_iff_toNat_lt.1 hlt) (by decide)

/-- A request has a deadline exactly if its metadata limit its time. -/
theorem deadline_context (m : Metadata) (now : Moment) (fresh : String) :
    (m.context now fresh).deadline = m.timeout?.map (now.ticks + ·) := by
  unfold context
  cases m.timeout? <;> rfl

theorem requestId_context (m : Metadata) (now : Moment) (fresh : String) :
    (m.context now fresh).requestId = m.requestId?.getD fresh := by
  unfold context
  cases m.timeout? <;> rfl

/-- **The deadline is the moment and the timeout**, which is the first value
of its key. -/
theorem deadline_context_eq_some_iff (h : ofPairs pairs = .ok m) {now : Moment} {fresh : String}
    {d : Nat} : (m.context now fresh).deadline = some d ↔
      ∃ s n, FirstValue pairs "grpc-timeout" (Utf8.encode s) ∧ Readable (Utf8.encode s) ∧
        Timeout.ofString? s = some n ∧ d = now.ticks + n := by
  have htimeout {n : Nat} : m.timeout? = some n ↔
      ∃ s, m.text? "grpc-timeout" = some s ∧ Timeout.ofString? s = some n :=
    Option.bind_eq_some_iff
  rw [deadline_context, Option.map_eq_some_iff]
  constructor
  · rintro ⟨n, hn, rfl⟩
    obtain ⟨s, hs, hn⟩ := htimeout.1 hn
    obtain ⟨hfirst, hreadable⟩ := (text?_eq_some_iff h).1 hs
    exact ⟨s, n, hfirst, hreadable, hn, rfl⟩
  · rintro ⟨s, n, hfirst, hreadable, hn, rfl⟩
    exact ⟨n, htimeout.2 ⟨s, (text?_eq_some_iff h).2 ⟨hfirst, hreadable⟩, hn⟩, rfl⟩

/-- The name that metadata give is a text that is not empty. -/
theorem requestId?_eq_some_iff (h : ofPairs pairs = .ok m) : m.requestId? = some s ↔
    FirstValue pairs "x-request-id" (Utf8.encode s) ∧ Readable (Utf8.encode s) ∧ s ≠ "" := by
  unfold requestId?
  rw [Option.filter_eq_some_iff, text?_eq_some_iff h, decide_eq_true_iff, and_assoc]

/-- **A request has the name that metadata give it**, byte for byte. -/
theorem encode_requestId_context (h : ofPairs pairs = .ok m)
    (hfirst : FirstValue pairs "x-request-id" value) (hreadable : Readable value)
    (hne : value ≠ []) (now : Moment) (fresh : String) :
    Utf8.encode (m.context now fresh).requestId = value := by
  obtain ⟨s, rfl⟩ := hreadable.exists_encode
  have hs : s ≠ "" := by
    rintro rfl
    exact hne rfl
  rw [requestId_context, (requestId?_eq_some_iff h).2 ⟨hfirst, hreadable, hs⟩, Option.getD_some]

/-- **A request that no text names has a fresh name.** -/
theorem requestId_context_eq_fresh (h : ofPairs pairs = .ok m)
    (hnone : ∀ value, FirstValue pairs "x-request-id" value → ¬ (Readable value ∧ value ≠ []))
    (now : Moment) (fresh : String) : (m.context now fresh).requestId = fresh := by
  rw [requestId_context]
  cases hid : m.requestId? with
  | none => rfl
  | some s =>
    obtain ⟨hfirst, hreadable, hs⟩ := (requestId?_eq_some_iff h).1 hid
    refine absurd ⟨hreadable, fun hempty => hs ?_⟩ (hnone _ hfirst)
    exact Utf8.encode_inj hempty

/-- **Timeouts are read exactly, and metadata are heeded exactly.** A text
is a timeout if it is one to eight digits and the letter of a unit, and then
it is as many nanoseconds as the digits say units, also when it is read in
words of 64 and 32 bits. A call has a deadline exactly if the first value of
`grpc-timeout` is such a text, so much later than it was received, and the
name that the first value of `x-request-id` is, if that is text and not
empty, and a fresh one otherwise. -/
theorem timeouts_exact :
    (∀ s n, Timeout.ofString? s = some n ↔
      ∃ digits unit, Timeout.Consists s digits unit ∧ n = Timeout.amount digits * unit.2) ∧
    (∀ s, (Timeout.inWords? s).map Timeout.Span.total = Timeout.ofString? s) ∧
    ∀ pairs m, ofPairs pairs = .ok m → ∀ draws k w,
      let now := (draws (k + 1) .clock).moment
      let ctx := (m.receive.run draws k w).result
      (∀ d, ctx.deadline = some d ↔
        ∃ s n, FirstValue pairs "grpc-timeout" (Utf8.encode s) ∧ Readable (Utf8.encode s) ∧
          Timeout.ofString? s = some n ∧ d = now.ticks + n) ∧
      (∀ value, FirstValue pairs "x-request-id" value → Readable value → value ≠ [] →
        Utf8.encode ctx.requestId = value) ∧
      ((∀ value, FirstValue pairs "x-request-id" value → ¬ (Readable value ∧ value ≠ [])) →
        ctx.requestId = (draws k .identifier).identifier) := by
  refine ⟨fun s n => Timeout.ofString?_eq_some_iff, Timeout.total_inWords,
    fun pairs m h draws k w => ?_⟩
  exact ⟨fun d => deadline_context_eq_some_iff h,
    fun value hfirst hreadable hne => encode_requestId_context h hfirst hreadable hne _ _,
    fun hnone => requestId_context_eq_fresh h hnone _ _⟩

/-- Of two timeouts the first counts, whatever the case of its key; so does
the first name, and a first name that is no text leaves the request with a
fresh one. -/
theorem timeouts_exact_plain :
    let draws : Draws := fun n _ => ⟨⟨1700000000, 7⟩, "fresh " ++ n.repr, default, none, none⟩
    let named : Metadata := ⟨[("x-request-id", Utf8.encode "checkout"),
      ("grpc-timeout", Utf8.encode "12M"), ("grpc-timeout", Utf8.encode "1n")]⟩
    let unnamed : Metadata := ⟨[("x-request-id", [0xC3, 0xA9]),
      ("x-request-id", Utf8.encode "other")]⟩
    (named.receive.run draws 0 {}).result.deadline = some (7 + 12 * (60 * 10 ^ 9)) ∧
      Utf8.encode (named.receive.run draws 0 {}).result.requestId = Utf8.encode "checkout" ∧
      (unnamed.receive.run draws 0 {}).result.requestId = "fresh 0" := by
  intro draws named unnamed
  have hnamed : ofPairs [("X-Request-Id", Utf8.encode "checkout"),
      ("grpc-TIMEOUT", Utf8.encode "12M"), ("grpc-timeout", Utf8.encode "1n")] = .ok named := by
    decide +kernel
  have hunnamed : ofPairs [("x-request-id", [0xC3, 0xA9]),
      ("x-request-id", Utf8.encode "other")] = .ok unnamed := by decide +kernel
  have htwelve : Timeout.Consists "12M" ['1', '2'] ('M', 60 * 10 ^ 9) :=
    ⟨by decide +kernel, by decide,
      List.forall_mem_cons.2 ⟨rfl, List.forall_mem_cons.2 ⟨rfl, nofun⟩⟩, .tail _ (.head _)⟩
  refine ⟨?_, ?_, ?_⟩
  · exact ((timeouts_exact.2.2 _ _ hnamed draws 0 {}).1 _).2 ⟨"12M", _,
      ⟨[("X-Request-Id", Utf8.encode "checkout")], "grpc-TIMEOUT", _, rfl, by decide +kernel,
        by decide +kernel⟩, by decide +kernel,
      (timeouts_exact.1 _ _).2 ⟨['1', '2'], _, htwelve, rfl⟩, rfl⟩
  · exact (timeouts_exact.2.2 _ _ hnamed draws 0 {}).2.1 _
      ⟨[], "X-Request-Id", _, rfl, by decide +kernel, by decide⟩ (by decide +kernel)
      (by decide +kernel)
  · refine (timeouts_exact.2.2 _ _ hunnamed draws 0 {}).2.2 fun value hfirst => ?_
    rw [← lookup_eq_some_iff hunnamed] at hfirst
    obtain rfl : [0xC3, 0xA9] = value := Option.some.inj hfirst
    rintro ⟨hreadable, -⟩
    exact absurd hreadable (by decide +kernel)

end Metadata

end SignOn
