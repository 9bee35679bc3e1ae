import SignOn.Deadline
import SignOn.Event.Basic
import SignOn.Event.Error
/-!
# Where events go

Events are posted to a receiver over HTTP, one address for each subject,
or only logged when no receiver is set. The exchange of messages itself
happens outside; what is decided here is the message that is sent and
what comes of the exchange.
-/

namespace SignOn

/-- A receiver of events over HTTP. -/
structure Webhook where
  /-- The base address, without slashes at its end. -/
  endpoint : String
deriving Repr, DecidableEq

/-- A message to a receiver. -/
structure Post where
  url : String
  contentType : String
  requestId : String
  body : List UInt8
deriving Repr, DecidableEq

/-- What comes of sending a message. -/
inductive Exchange
  | failed (detail : String)
  | answered (status : Nat) (body : String)
deriving Repr, DecidableEq

namespace Webhook

/-- The receiver at an address. -/
def ofEndpoint (endpoint : String) : Webhook :=
  ⟨String.ofList (endpoint.toList.reverse.dropWhile (· = '/')).reverse⟩

/-- The address for a subject. -/
def url (w : Webhook) (subject : String) : String :=
  w.endpoint ++ "/" ++ subject

/-- The message that publishes bytes under a subject. -/
def post (w : Webhook) (ctx : RequestContext) (subject : String) (payload : List UInt8) : Post :=
  ⟨w.url subject, "application/json", ctx.requestId, payload⟩

/-- Whether a status means success. -/
def isSuccess (status : Nat) : Bool :=
  200 ≤ status ∧ status < 300

/-- What comes of publishing at a moment: of the message, if its exchange
takes so many nanoseconds, and of the deadline otherwise. -/
def publish (w : Webhook) (ctx : RequestContext) (start : Moment) (takes : Nat)
    (exchange : Post → Exchange) (subject : String) (payload : List UInt8) :
    Except NotificationError Unit :=
  match ctx.guarded start takes with
  | .notBegun => .error .deadlineExceeded
  | .cutOff => .error .deadlineExceeded
  | .finished =>
    match exchange (w.post ctx subject payload) with
    | .failed detail => .error (.request detail)
    | .answered status body =>
      if isSuccess status then .ok () else .error (.refused status body)

end Webhook

/-- Where events go. -/
inductive Publisher
  | log
  | webhook (w : Webhook)
deriving Repr, DecidableEq

namespace Publisher

/-- The publisher of the settings. -/
def ofConfig (c : NotificationsConfig) : Publisher :=
  match c.endpoint with
  | some endpoint => .webhook (.ofEndpoint endpoint)
  | none => .log

/-- What comes of publishing; the log takes everything. -/
def publish (p : Publisher) (ctx : RequestContext) (start : Moment) (takes : Nat)
    (exchange : Post → Exchange) (subject : String) (payload : List UInt8) :
    Except NotificationError Unit :=
  match p with
  | .log => .ok ()
  | .webhook w => w.publish ctx start takes exchange subject payload

end Publisher

end SignOn
