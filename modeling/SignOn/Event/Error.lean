/-!
# Notification errors

Why an event did not get out, and the text of each reason.
-/

namespace SignOn

/-- Why an event was not published. -/
inductive NotificationError
  | encoding (detail : String)
  /-- The request could not be sent, or no answer came. -/
  | request (detail : String)
  /-- The receiver answered that it failed. -/
  | refused (status : Nat) (body : String)
  | unavailable (detail : String)
  | deadlineExceeded
deriving Repr, DecidableEq

/-- The text of an error. -/
def NotificationError.message : NotificationError → String
  | .encoding detail => "Payload encoding error: " ++ detail
  | .request detail => "Request error: " ++ detail
  | .refused status body => s!"Endpoint error (status {status}): " ++ body
  | .unavailable detail => "Publisher unavailable: " ++ detail
  | .deadlineExceeded => "Deadline exceeded"

end SignOn
