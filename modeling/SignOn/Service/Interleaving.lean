import SignOn.Service.Program
/-!
# Programs at once

Several programs go on at once when the world answers one step of one of
them at a time. A `Pool` is a world with the programs that are going on
in it; `Pool.advance` lets one of them take its next step. Any schedule
is allowed: `Pool.run` follows a list of turns, and a turn of a program
that is done, or of none, changes nothing.
-/

namespace SignOn

/-- A world and the programs going on in it. -/
structure Pool (α : Type) where
  world : World
  programs : List (Program α)

/-- Which program takes a step, and what the world does not determine. -/
structure Turn where
  program : Nat
  draw : Draw

namespace Pool

variable {α : Type}

/-- One program takes its next step. -/
def advance (p : Pool α) (t : Turn) : Pool α :=
  match p.programs[t.program]? with
  | some (.await e next) =>
    let (r, w) := p.world.answer t.draw e
    ⟨w, p.programs.set t.program (next r)⟩
  | _ => p

/-- Programs take their steps in a given order. -/
def run (p : Pool α) (turns : List Turn) : Pool α :=
  turns.foldl advance p

/-- The results of the programs that are done. -/
def results (p : Pool α) : List α :=
  p.programs.filterMap fun
    | .done a => some a
    | .await _ _ => none

end Pool

end SignOn
