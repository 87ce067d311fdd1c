import SolverInput.Dictionary.Listing

namespace SolverInput

def builtinKeywords : Section → List String
  | .header =>
    ["mesh db", "include path", "results directory", "check keywords", "echo on"]
  | .simulation =>
    ["max output level", "coordinate system", "coordinate mapping", "coordinate scaling",
      "simulation type", "steady state max iterations", "steady state min iterations",
      "output intervals", "timestepping method", "bdf order", "timestep sizes",
      "timestep intervals", "timestep size", "output file", "post file", "solver input file",
      "restart file", "restart position", "restart time", "angular frequency", "frequency",
      "initialize dirichlet conditions", "mesh levels", "use mesh names", "output format",
      "binary output", "output coordinates", "simulation timing", "output variable 1",
      "newmark beta", "restart before initial conditions"]
  | .constants =>
    ["gravity", "stefan boltzmann", "permittivity of vacuum", "permeability of vacuum",
      "boltzmann constant", "unit charge"]
  | .equation =>
    ["active solvers", "convection", "plane stress", "phase change model", "element",
      "concentration units", "magnetic induction", "stress analysis", "heat equation",
      "navier-stokes", "compressibility model", "nonlinear update exported variables"]
  | .solver =>
    ["equation", "procedure", "variable", "variable dofs", "exec solver", "exec intervals",
      "linear system solver", "linear system iterative method", "linear system max iterations",
      "linear system convergence tolerance", "linear system preconditioning",
      "linear system direct method", "linear system abort not converged",
      "linear system residual output", "linear system precondition recompute",
      "linear system ilut tolerance", "bicgstabl polynomial degree",
      "steady state convergence tolerance", "nonlinear system convergence tolerance",
      "nonlinear system max iterations", "nonlinear system newton after iterations",
      "nonlinear system newton after tolerance", "nonlinear system relaxation factor",
      "optimize bandwidth", "stabilize", "bubbles", "lumped mass matrix", "calculate loads",
      "calculate stresses", "displace mesh", "exported variable 1", "exported variable 1 dofs",
      "output file name", "output directory", "vtu format", "save geometry ids", "ascii output",
      "timestep scale", "element", "mask name 1", "single precision"]
  | .material =>
    ["density", "heat capacity", "heat conductivity", "viscosity", "youngs modulus",
      "poisson ratio", "heat expansion coefficient", "reference temperature",
      "electric conductivity", "relative permittivity", "relative permeability",
      "specific heat ratio", "reference pressure", "enthalpy", "emissivity", "viscosity model",
      "compressibility model", "diffusivity", "heat conductivity 1"]
  | .body =>
    ["target bodies", "equation", "material", "body force", "initial condition"]
  | .bodyForce =>
    ["heat source", "flow bodyforce 1", "boussinesq", "current density", "stress bodyforce 1",
      "potential source", "volume force"]
  | .boundaryCondition =>
    ["target boundaries", "temperature", "heat flux", "heat flux bc", "heat transfer coefficient",
      "external temperature", "velocity 1", "pressure", "displacement 1",
      "normal-tangential velocity", "noslip wall bc", "potential", "mask name 1", "radiation",
      "external pressure", "slip coefficient 1", "periodic bc", "save scalars", "save line",
      "flow force bc", "body id"]
  | .initialCondition =>
    ["temperature", "velocity 1", "pressure", "displacement 1", "potential", "concentration"]
  | .component =>
    ["master bodies", "master boundaries", "coil type", "desired current", "circuit equation",
      "component type"]
  | .boundary =>
    ["target boundaries", "boundary type"]

/-- The built-in dictionary lists every kind of section. -/
def Dictionary.builtin : Dictionary :=
  .ofListing ⟨.ofList (Section.all.map fun s =>
    (s.id, .listed ((builtinKeywords s).map String.toList)))⟩

theorem normalize_id (s : Section) : normalize s.id = s.id := by
  cases s <;> decide

theorem isSome_keywords?_builtin (s : Section) : (Dictionary.builtin.keywords? s.id).isSome := by
  rw [← normalize_id s]
  apply Dictionary.isSome_keywords?_ofListing
  rw [Table.mem_keys_iff]
  apply Table.isSome_get?_ofList
  rw [List.map_map]
  exact List.mem_map_of_mem (Section.mem_all s)

end SolverInput
