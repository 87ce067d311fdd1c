import SolverInput.Text

namespace SolverInput

/-- A decimal number, `digits` times ten to the power `exponent`, or its negative. -/
structure Number where
  negative : Bool
  digits : Nat
  exponent : Int
  deriving DecidableEq

def Number.ofNat (n : Nat) : Number :=
  ⟨false, n, 0⟩

def Number.ofInt (i : Int) : Number :=
  ⟨decide (i < 0), i.natAbs, 0⟩

/-- A value of JavaScript Object Notation. An object keeps its members in their written order. -/
inductive Json where
  | null
  | bool (b : Bool)
  | number (n : Number)
  | string (s : Text)
  | array (items : List Json)
  | object (members : List (Text × Json))
  deriving Inhabited

namespace Json

def ofNat (n : Nat) : Json :=
  number (.ofNat n)

def ofInt (i : Int) : Json :=
  number (.ofInt i)

def string? : Json → Option Text
  | string s => some s
  | _ => none

/-- The member of this name. Of several the last counts. -/
def field? (name : Text) : Json → Option Json
  | object members => (members.reverse.find? (·.1 == name)).map (·.2)
  | _ => none

end Json

end SolverInput
