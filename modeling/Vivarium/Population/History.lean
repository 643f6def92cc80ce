import Vivarium.Population.Replay
import Vivarium.Population.Tick

/-!
# Runs and histories

Whoever owns a population calls it in one of two ways: for a tick on what the
feed gives, or for a replay of some entries. A run is any sequence of calls, in
any order, and stops at the first that has no answer. The call that a cell goes
back to is the one after which its id was first seen.

A history is what somebody writes down who sees every call of a run: how the
population was before and after it, which cells were made, which died and which
were culled. A replay makes cells and lets none go. Whether an id was alive
through a whole tick can be read off the two populations of a turn.
-/

namespace Vivarium

/-- One way of calling a population. -/
inductive Call where
  | tick (poll : Poll)
  | replay (entries : List AuditEntry)

namespace Population

def call (population : Population) : Call → Except Fault Population
  | .tick poll => (population.tick poll).map (·.2)
  | .replay entries => (population.replay entries).map (·.2)

def run (population : Population) (calls : List Call) : Except Fault Population :=
  calls.foldlM call population

/-- Whether a cell with the given id lives. -/
def hasCell (population : Population) (id : Nat) : Bool :=
  population.cells.any (·.id == id)

/-- The call after which a cell with the given id is first seen alive. -/
def origin? (population : Population) (id : Nat) : List Call → Option Call
  | [] => none
  | call :: rest =>
      match population.call call with
      | .ok next => if next.hasCell id then some call else next.origin? id rest
      | .error _ => none

end Population

/-! ## Histories -/

/-- Whether a call is for a tick. -/
def Call.isTick : Call → Bool
  | .tick _ => true
  | .replay _ => false

/-- A call that was answered, and what it did to the cells. -/
structure Turn where
  call : Call
  before : Population
  after : Population
  made : List Cell
  died : List Cell
  culled : List Cell

namespace Turn

/-- The cells that left, in the order in which they are offered to the memory. -/
def left (turn : Turn) : List Cell :=
  turn.died ++ turn.culled

/-- Whether the turn is a tick that a cell with the given id was alive before and after. -/
def outlivedBy (turn : Turn) (id : Nat) : Bool :=
  turn.call.isTick && turn.before.hasCell id && turn.after.hasCell id

end Turn

namespace Population

/-- The turn that a call makes. -/
def turn (population : Population) (call : Call) : Except Fault Turn :=
  match call with
  | .tick poll => do
      let stages ← population.stages poll
      return {
        call
        before := population
        after := population.after stages
        made := stages.founders.cells ++ stages.children.cells
        died := stages.dying
        culled := stages.culling.culled }
  | .replay entries => do
      let (_, next) ← population.replay entries
      return {
        call
        before := population
        after := next
        made := next.cells.drop population.cells.length
        died := []
        culled := [] }

/-- Adds a turn to a history that a population ends. -/
def extend (past : List Turn × Population) (call : Call) :
    Except Fault (List Turn × Population) := do
  let turn ← past.2.turn call
  return (past.1 ++ [turn], turn.after)

/-- The turns of a run, and the population that it ends with. -/
def history (population : Population) (calls : List Call) :
    Except Fault (List Turn × Population) :=
  calls.foldlM extend ([], population)

end Population

end Vivarium
