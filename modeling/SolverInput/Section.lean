import SolverInput.Text

namespace SolverInput

inductive Section where
  | header
  | simulation
  | constants
  | equation
  | solver
  | material
  | body
  | bodyForce
  | boundaryCondition
  | initialCondition
  | component
  | boundary
  deriving DecidableEq, Repr

namespace Section

def all : List Section :=
  [header, simulation, constants, equation, solver, material, body, bodyForce,
    boundaryCondition, initialCondition, component, boundary]

/-- The names that headers have, in normal form, each with the section that it opens. -/
def names : List (Text × Section) :=
  [
    ("header".toList, header),
    ("simulation".toList, simulation),
    ("constants".toList, constants),
    ("equation".toList, equation),
    ("solver".toList, solver),
    ("material".toList, material),
    ("body".toList, body),
    ("body force".toList, bodyForce),
    ("boundary condition".toList, boundaryCondition),
    ("initial condition".toList, initialCondition),
    ("component".toList, component),
    ("boundary".toList, boundary)]

def ofName? (name : Text) : Option Section :=
  names.lookup name

/-- The name under which a dictionary lists the keywords of this kind of section. -/
def id : Section → Text
  | header => "header".toList
  | simulation => "simulation".toList
  | constants => "constants".toList
  | equation => "equation".toList
  | solver => "solver".toList
  | material => "material".toList
  | body => "body".toList
  | bodyForce => "bodyforce".toList
  | boundaryCondition => "bc".toList
  | initialCondition => "ic".toList
  | component => "component".toList
  | boundary => "boundary".toList

theorem mem_all (s : Section) : s ∈ all := by
  cases s <;> decide

end Section

end SolverInput
