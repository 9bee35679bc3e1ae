/-!
# Requests and their deadlines

Every request has an identifier, for the log, and perhaps a deadline.
Two clocks play a part: the calendar, in seconds, dates rows and tokens;
a steady clock, in nanoseconds, measures deadlines. A `Moment` reads
both. Nothing is started at or after the deadline of its request, and
what is still going on then is cut off.
-/

namespace SignOn

/-- A reading of both clocks. -/
structure Moment where
  /-- Seconds since 1970. -/
  seconds : Int
  /-- Nanoseconds of the steady clock. -/
  ticks : Nat
deriving Repr, DecidableEq

/-- The text of a passed deadline. -/
def deadlineMessage : String :=
  "request deadline exceeded"

/-- A request. -/
structure RequestContext where
  requestId : String
  /-- The deadline on the steady clock; a request without one has all the
  time that it takes. -/
  deadline : Option Nat := none
deriving Repr, DecidableEq

namespace RequestContext

/-- The request with a deadline so many nanoseconds from now. -/
def withTimeout (ctx : RequestContext) (now : Moment) (timeout : Nat) : RequestContext :=
  { ctx with deadline := some (now.ticks + timeout) }

/-- The request with a given deadline. -/
def withDeadline (ctx : RequestContext) (deadline : Nat) : RequestContext :=
  { ctx with deadline := some deadline }

/-- Whether the deadline has passed. -/
def isOver (ctx : RequestContext) (now : Moment) : Bool :=
  match ctx.deadline with
  | some d => d ≤ now.ticks
  | none => false

/-- The nanoseconds that are left; without a deadline there is no such
number. -/
def remaining (ctx : RequestContext) (now : Moment) : Option Nat :=
  ctx.deadline.map fun d => d - now.ticks

/-- What becomes of work under a deadline. -/
inductive Guarded
  /-- The deadline had passed before, and the work was not begun. -/
  | notBegun
  /-- The deadline passed before the work was done. -/
  | cutOff
  | finished
deriving Repr, DecidableEq

/-- What becomes of work that is begun at a moment and takes so many
nanoseconds. -/
def guarded (ctx : RequestContext) (start : Moment) (takes : Nat) : Guarded :=
  match ctx.deadline with
  | none => .finished
  | some d =>
    if d ≤ start.ticks then .notBegun
    else if start.ticks + takes < d then .finished
    else .cutOff

end RequestContext

end SignOn
