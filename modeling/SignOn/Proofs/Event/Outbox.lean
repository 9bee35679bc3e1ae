import SignOn.Event.Outbox
import SignOn.Proofs.Event.Basic
/-!
# What an outbox keeps

An outbox that works keeps every event that is sent, in order, each under
the subject of its occasion and in bytes that read back as that event. The
last event under a subject is the last that was sent for an occasion with
this subject, which may be both. One that refuses keeps nothing:
`Outbox.sent_events_survive`.
-/

namespace SignOn

/-- What is sent at once: an occasion, the account in a word of 64 bits, and
the token of its owner. -/
structure Sending where
  occasion : Occasion
  accountId : UInt64
  token : String
deriving DecidableEq

namespace Sending

/-- The event that is sent. -/
def event (s : Sending) : Event :=
  ⟨s.accountId.toNat, s.token⟩

/-- The subject that it is sent under. -/
def subject (subjects : SubjectsConfig) (s : Sending) : String :=
  subjects.subject s.occasion

/-- What is published of it. -/
def published (subjects : SubjectsConfig) (s : Sending) : Published :=
  ⟨s.subject subjects, s.event.payload⟩

/-- **What is published of it reads back**: no number of 64 bits and no text
is lost on the way. -/
theorem event?_published (subjects : SubjectsConfig) (s : Sending) :
    (s.published subjects).event? = some s.event :=
  Event.event?_eq_some rfl s.accountId.toNat_lt

end Sending

namespace Outbox

variable {o : Outbox} {subjects : SubjectsConfig} {subject : String} {e : Event}

/-- Sends one after another, with the result of each. A sending that fails
leaves the outbox as it was. -/
def sendAll (subjects : SubjectsConfig) :
    Outbox → List Sending → List (Except NotificationError Unit) × Outbox
  | o, [] => ([], o)
  | o, s :: sends =>
    match o.send subjects s.occasion s.event with
    | .ok o' =>
      let rest := sendAll subjects o' sends
      (.ok () :: rest.1, rest.2)
    | .error e =>
      let rest := sendAll subjects o sends
      (.error e :: rest.1, rest.2)

/-! ## Refusing -/

theorem send_of_failing (h : o.failing = true) (s : Sending) :
    o.send subjects s.occasion s.event = .error refusal :=
  if_pos h

/-- **An outbox that refuses keeps nothing**, and says so each time. -/
theorem sendAll_of_failing (h : o.failing = true) (sends : List Sending) :
    o.sendAll subjects sends = (sends.map fun _ => .error refusal, o) := by
  induction sends with
  | nil => rfl
  | cons s sends ih => simp only [sendAll, send_of_failing h, ih, List.map_cons]

/-! ## Keeping -/

theorem send_of_working (h : o.failing = false) (s : Sending) :
    o.send subjects s.occasion s.event =
      .ok { o with published := o.published ++ [s.published subjects] } :=
  if_neg (Bool.eq_false_iff.1 h)

/-- **An outbox that works keeps everything**, behind what it has. -/
theorem sendAll_of_working (h : o.failing = false) (sends : List Sending) :
    o.sendAll subjects sends = (sends.map fun _ => .ok (),
      { o with published := o.published ++ sends.map (Sending.published subjects) }) := by
  induction sends generalizing o with
  | nil => simp [sendAll]
  | cons s sends ih =>
    have hrest := ih (o := { o with published := o.published ++ [s.published subjects] }) h
    simp only [sendAll, send_of_working h, hrest, List.map_cons, List.append_assoc,
      List.singleton_append]

/-- **The last event under a subject is the last that was sent under it.** -/
theorem lastEvent?_eq_some_iff {sends : List Sending}
    (h : o.published = sends.map (Sending.published subjects)) :
    o.lastEvent? subject = some e ↔ ∃ before s after, sends = before ++ s :: after ∧
      s.subject subjects = subject ∧ (∀ t ∈ after, t.subject subjects ≠ subject) ∧
      s.event = e := by
  have hlast : o.lastEvent? subject =
      (sends.reverse.find? fun s => s.subject subjects == subject).map Sending.event := by
    have hread : Published.event? ∘ Sending.published subjects = some ∘ Sending.event :=
      funext (Sending.event?_published subjects)
    rw [lastEvent?, h, ← List.map_reverse, List.find?_map, Option.bind_map, hread,
      ← Option.map_eq_bind]
    rfl
  rw [hlast, Option.map_eq_some_iff]
  constructor
  · rintro ⟨s, hfind, rfl⟩
    obtain ⟨hs, after, before, hreverse, hafter⟩ := List.find?_eq_some_iff_append.1 hfind
    refine ⟨before.reverse, s, after.reverse, ?_, beq_iff_eq.1 hs, fun t ht => ?_, rfl⟩
    · rw [← List.reverse_inj, hreverse]
      simp
    · simpa using hafter t (List.mem_reverse.1 ht)
  · rintro ⟨before, s, after, rfl, hs, hafter, rfl⟩
    refine ⟨s, List.find?_eq_some_iff_append.2
      ⟨beq_iff_eq.2 hs, after.reverse, before.reverse, by simp, fun t ht => ?_⟩, rfl⟩
    simpa using hafter t (List.mem_reverse.1 ht)

/-- **Events survive the way to the outbox.** Whatever is sent to one that
works is accepted, and in its place stands an event under the subject of its
occasion that reads back as the one that was sent; the last event under a
subject is the last one sent under it, also where occasions share a subject.
One that refuses fails every time, and keeps nothing. -/
theorem sent_events_survive (subjects : SubjectsConfig) (sends : List Sending) :
    let working := sendAll subjects {} sends
    let failing := sendAll subjects { failing := true } sends
    working.1 = sends.map (fun _ => .ok ()) ∧
      working.2.published.map (fun p => (p.subject, p.event?)) =
        sends.map (fun s => (s.subject subjects, some s.event)) ∧
      (∀ subject e, working.2.lastEvent? subject = some e ↔
        ∃ before s after, sends = before ++ s :: after ∧ s.subject subjects = subject ∧
          (∀ t ∈ after, t.subject subjects ≠ subject) ∧ s.event = e) ∧
      failing.1 = sends.map (fun _ => .error (.unavailable "publisher rejected event")) ∧
      failing.2.published = [] := by
  intro working failing
  have hworking : working = (sends.map fun _ => .ok (),
      { published := sends.map (Sending.published subjects) }) :=
    sendAll_of_working rfl sends
  have hfailing : failing = (sends.map fun _ => .error refusal, { failing := true }) :=
    sendAll_of_failing rfl sends
  rw [hworking, hfailing]
  refine ⟨rfl, ?_, fun subject e => lastEvent?_eq_some_iff rfl, rfl, rfl⟩
  rw [List.map_map]
  exact List.map_congr_left fun s _ => Prod.ext rfl (s.event?_published subjects)

/-- Under one subject for both occasions, the last event is the last of
all, whatever its token is made of. -/
theorem sent_events_survive_shared :
    let token := "\"\\\n\u0000é🔑"
    (sendAll ⟨"accounts", "accounts"⟩ {}
      [⟨.forgetPassword, 7, "first"⟩, ⟨.verifyEmail, 0xFFFFFFFFFFFFFFFF, token⟩]).2.lastEvent?
        "accounts" = some ⟨0xFFFFFFFFFFFFFFFF, token⟩ :=
  ((sent_events_survive _ _).2.2.1 _ _).2 ⟨[_], _, [], rfl, rfl, by simp, rfl⟩

end Outbox

end SignOn
