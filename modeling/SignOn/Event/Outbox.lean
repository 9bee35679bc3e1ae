import SignOn.Event.Basic
import SignOn.Event.Error
/-!
# The outbox

An outbox keeps what is published, in order, or refuses everything. It
does not look at deadlines: it takes no time.
-/

namespace SignOn

/-- A receiver that keeps events in memory. -/
structure Outbox where
  published : List Published := []
  failing : Bool := false
deriving Repr, DecidableEq

namespace Outbox

/-- The error of an outbox that refuses. -/
def refusal : NotificationError :=
  .unavailable "publisher rejected event"

/-- Publishes bytes under a subject. -/
def publish (o : Outbox) (subject : String) (payload : List UInt8) :
    Except NotificationError Outbox :=
  if o.failing then .error refusal
  else .ok { o with published := o.published ++ [⟨subject, payload⟩] }

/-- Sends an event under the subject of its occasion. -/
def send (o : Outbox) (subjects : SubjectsConfig) (occasion : Occasion) (e : Event) :
    Except NotificationError Outbox :=
  o.publish (subjects.subject occasion) e.payload

/-- The last event under a subject. -/
def lastEvent? (o : Outbox) (subject : String) : Option Event :=
  (o.published.reverse.find? fun p => p.subject == subject).bind Published.event?

end Outbox

end SignOn
