/-!
# The log and what of it is kept

A record of the log has a level, a target (the part of the service it is
about) and a text. A filter is a list of directives: a level for all
targets, or for those that start with a given name. Of the directives for
a target the most specific one decides, and of two alike the later.
-/

namespace SignOn

namespace Log

/-- How grave a record is. -/
inductive Level
  | error
  | warn
  | info
  | debug
  | trace
deriving Repr, DecidableEq

/-- The place of a level, graver ones first. -/
def Level.rank : Level → Nat
  | .error => 1
  | .warn => 2
  | .info => 3
  | .debug => 4
  | .trace => 5

/-- The name of a level. -/
def Level.name : Level → String
  | .error => "ERROR"
  | .warn => "WARN"
  | .info => "INFO"
  | .debug => "DEBUG"
  | .trace => "TRACE"

/-- A record. -/
structure Record where
  level : Level
  target : String
  message : String
deriving Repr, DecidableEq

/-! ## Filters -/

/-- The records of some targets that are kept: those up to a rank. -/
structure Directive where
  /-- What the targets start with; none for all targets. -/
  target : Option String
  rank : Nat
deriving Repr, DecidableEq

/-- The ranks by their names, in lower case; nothing named means errors. -/
def rankNames : List (String × Nat) :=
  [("", 1), ("off", 0), ("error", 1), ("warn", 2), ("info", 3), ("debug", 4), ("trace", 5),
    ("0", 0), ("1", 1), ("2", 2), ("3", 3), ("4", 4), ("5", 5)]

/-- The rank that a text names. -/
def rank? (s : String) : Option Nat :=
  rankNames.lookup (s.map Char.toLower)

namespace Directive

/-- The directive that a text writes: a level, a target, or a target and
a level. -/
def ofString? (s : String) : Option Directive :=
  match s.splitOn "=" with
  | [one] =>
    match rank? one with
    | some rank => some ⟨none, rank⟩
    | none => some ⟨some one, Level.trace.rank⟩
  | [target, level] => (rank? level).map fun rank => ⟨some target, rank⟩
  | _ => none

/-- Whether a directive is about a target. -/
def covers (d : Directive) (target : String) : Bool :=
  match d.target with
  | some start => target.startsWith start
  | none => true

/-- How specific a directive is. -/
def weight (d : Directive) : Nat :=
  d.target.elim 0 fun t => t.length + 1

end Directive

/-- What is kept of the log. -/
structure Filter where
  directives : List Directive
deriving Repr, DecidableEq

namespace Filter

/-- The filter that a text writes: directives with commas between them.
What is no directive is passed over, and if nothing is left errors are
kept. -/
def ofString (s : String) : Filter :=
  match ((s.splitOn ",").filter (· ≠ "")).filterMap Directive.ofString? with
  | [] => ⟨[⟨none, Level.error.rank⟩]⟩
  | ds => ⟨ds⟩

/-- The directive that decides about a target. -/
def deciding (f : Filter) (target : String) : Option Directive :=
  (f.directives.filter fun d => d.covers target).foldl
    (fun best d =>
      match best with
      -- of two that are equally specific the later one
      | some b => if b.weight ≤ d.weight then some d else best
      | none => some d)
    none

/-- Whether a record is kept. -/
def keeps (f : Filter) (r : Record) : Bool :=
  match f.deciding r.target with
  | some d => r.level.rank ≤ d.rank
  | none => false

end Filter

end Log

end SignOn
