import SignOn.Event.Basic
import SignOn.Proofs.Json.RoundTrip
/-!
# Events are read back

Whoever receives what was published reads the event that was written, as
long as the number of the account is one of 64 bits.
-/

namespace SignOn

namespace Event

/-- What is read from the values of the two fields. -/
theorem ofJson?_of_fields {v : Json} {a b : Option Json}
    (h : v.fields ["userId", "token"] = some [a, b]) :
    ofJson? v = (Json.required Json.asUInt64 a).bind fun accountId =>
      (Json.required Json.asString b).bind fun token => some ⟨accountId, token⟩ := by
  rw [ofJson?, h]
  rfl

theorem ofJson?_toJson {e : Event} (h : e.accountId < 0x10000000000000000) : ofJson? e.toJson = some e := by
  have hid : Json.required Json.asUInt64 (some (.whole e.accountId)) = some e.accountId := by
    rw [Json.required, Json.asUInt64, if_pos (by omega), Int.toNat_natCast]
  have htoken : Json.required Json.asString (some (.ofString e.token)) = some e.token := rfl
  have hfields : e.toJson.fields ["userId", "token"] =
      some [some (.whole e.accountId), some (.ofString e.token)] := rfl
  rw [ofJson?_of_fields hfields, hid, htoken, Option.bind_some, Option.bind_some]

theorem plain_toJson (e : Event) : e.toJson.Plain :=
  ⟨rfl, trivial, rfl, rfl, trivial⟩

/-- What is published says which event it is. -/
theorem payload_inj {e e' : Event} (h : e.payload = e'.payload) : e = e' := by
  have hread : some e.toJson = some e'.toJson := by
    rw [← Json.read_encode_write e.plain_toJson, ← Json.read_encode_write e'.plain_toJson]
    exact congrArg Json.read h
  obtain ⟨id, token⟩ := e
  obtain ⟨id', token'⟩ := e'
  simpa [toJson, Json.ofMembers, Json.ofString, Int.natCast_inj] using hread

/-- **An event is read back** from what was published. -/
theorem event?_eq_some {p : Published} {e : Event} (hp : p.payload = e.payload)
    (h : e.accountId < 0x10000000000000000) : p.event? = some e := by
  have hread : Json.read p.payload = some e.toJson := by
    rw [hp]
    exact Json.read_encode_write e.plain_toJson
  unfold Published.event?
  rw [hread]
  show (some e.toJson).bind (fun v => ofJson? v) = _
  rw [Option.bind_some, ofJson?_toJson h]

end Event

end SignOn
