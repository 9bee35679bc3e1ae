import SignOn.Crypto.Bcrypt
import SignOn.Deadline
import SignOn.Event.Outbox
import SignOn.Service.Error
import SignOn.Store.Query
/-!
# Programs and the world

An operation of the service is a `Program`: a tree of steps, each of which
asks something of the world and goes on with the reply. A step is atomic,
and between two steps of one program any steps of others may come. The
world answers one step at a time, `World.answer`, and what it does not
determine comes in with a `Draw`: the moment, a fresh identifier, a salt,
and the faults of storage and publisher. `Program.run` carries out a
program on its own; interleavings use the same `World.answer`.
-/

namespace SignOn

/-- What a step asks for. -/
inductive Effect
  /-- The moment. -/
  | clock
  /-- An identifier for a new token. -/
  | identifier
  /-- A salt for a new password hash. -/
  | salt
  /-- Whether the deadline of a request has passed. -/
  | deadline (ctx : RequestContext)
  | query (ctx : RequestContext) (q : Query)
  | publish (ctx : RequestContext) (subject : String) (payload : List UInt8)

/-- What a step gets. -/
abbrev Effect.Reply : Effect → Type
  | .clock => Moment
  | .identifier => String
  | .salt => Bcrypt.Salt
  | .deadline _ => Bool
  | .query _ q => Except StoreError q.Answer
  | .publish _ _ _ => Except NotificationError Unit

/-- A program of atomic steps. -/
inductive Program (α : Type) : Type
  | done (a : α)
  | await (e : Effect) (next : e.Reply → Program α)

namespace Program

variable {α β : Type}

/-- One program after another. -/
def bind : Program α → (α → Program β) → Program β
  | .done a, f => f a
  | .await e next, f => .await e fun r => (next r).bind f

instance : Monad Program where
  pure := .done
  bind := Program.bind

/-- The program of one step. -/
def step (e : Effect) : Program e.Reply :=
  .await e .done

/-- Ending with a result changes nothing. -/
theorem bind_done (p : Program α) : p.bind .done = p := by
  induction p with
  | done a => rfl
  | await e next ih => exact congrArg (Program.await e) (funext ih)

/-- Three programs in a row may be grouped either way. -/
theorem bind_assoc {γ : Type} (p : Program α) (f : α → Program β) (g : β → Program γ) :
    (p.bind f).bind g = p.bind fun a => (f a).bind g := by
  induction p with
  | done a => rfl
  | await e next ih => exact congrArg (Program.await e) (funext ih)

instance : LawfulMonad Program :=
  LawfulMonad.mk' Program bind_done (fun _ _ => rfl) bind_assoc

end Program

/-! ## The world -/

/-- A call that a program has made, to the store or to the outbox. -/
inductive Call
  | query (q : Query)
  | publish (subject : String) (payload : List UInt8)
deriving Repr, DecidableEq

/-- What programs share. -/
structure World where
  store : Store := .empty
  outbox : Outbox := {}
  /-- The calls made so far, the last one first. -/
  journal : List Call := []
deriving Repr, DecidableEq

/-- What the world does not determine in one step. -/
structure Draw where
  moment : Moment
  identifier : String
  salt : Bcrypt.Salt
  /-- An error that a query meets instead of being carried out. -/
  storeFault : Option StoreError := none
  /-- An error that publishing meets instead of being carried out. -/
  publishFault : Option NotificationError := none

namespace World

/-- Notes a call. -/
def note (w : World) (c : Call) : World :=
  { w with journal := c :: w.journal }

/-- Carries out a query, unless it meets a fault or its deadline has
passed. -/
def query (w : World) (d : Draw) (ctx : RequestContext) (q : Query) :
    Except StoreError q.Answer × World :=
  match d.storeFault with
  | some e => (.error e, w)
  | none =>
    if ctx.isOver d.moment then (.error .deadlineExceeded, w)
    else
      match w.store.run d.moment.seconds q with
      | .ok (a, store) => (.ok a, { w with store := store })
      | .error e => (.error e, w)

/-- Publishes, unless that meets a fault. -/
def publish (w : World) (d : Draw) (subject : String) (payload : List UInt8) :
    Except NotificationError Unit × World :=
  match d.publishFault with
  | some e => (.error e, w)
  | none =>
    match w.outbox.publish subject payload with
    | .ok outbox => (.ok (), { w with outbox := outbox })
    | .error e => (.error e, w)

/-- The reply to one step, and the world after it. -/
def answer (w : World) (d : Draw) : (e : Effect) → e.Reply × World
  | .clock => (d.moment, w)
  | .identifier => (d.identifier, w)
  | .salt => (d.salt, w)
  | .deadline ctx => (ctx.isOver d.moment, w)
  | .query ctx q => (w.note (.query q)).query d ctx q
  | .publish _ subject payload => (w.note (.publish subject payload)).publish d subject payload

end World

/-! ## Running -/

/-- What the world does not determine, for each step and what it asks. -/
abbrev Draws := Nat → Effect → Draw

/-- The end of a program: its result, the world after it and the number of
steps taken. -/
structure Ended (α : Type) where
  result : α
  world : World
  steps : Nat

/-- Carries out a program on its own, counting steps from a number on. -/
def Program.run {α : Type} (draws : Draws) : Program α → Nat → World → Ended α
  | .done a, n, w => ⟨a, w, n⟩
  | .await e next, n, w =>
    let (r, w) := w.answer (draws n e) e
    (next r).run draws (n + 1) w

/-- Of two programs in a row, the second goes on where the first ended. -/
theorem Program.run_bind {α β : Type} (draws : Draws) (p : Program α) (f : α → Program β)
    (n : Nat) (w : World) :
    (p.bind f).run draws n w =
      (f (p.run draws n w).result).run draws (p.run draws n w).steps (p.run draws n w).world := by
  induction p generalizing n w with
  | done a => rfl
  | await e next ih => exact ih _ _ _

end SignOn
