import SolverInput.Json.Numeral
import SolverInput.Json.Reader

namespace SolverInput.Toml

/-- The digits of a run in which single underscores may stand between digits. -/
def digitRun? (isDigit : Char → Bool) (s : Text) : Option Text :=
  let pieces := s.splitOnP (· == '_')
  if pieces.all fun p => !p.isEmpty && p.all isDigit then some pieces.flatten else none

/-- The digits of a decimal integer without sign: no zero before other digits. -/
def wholeDigits? (s : Text) : Option Text := do
  let digits ← digitRun? Char.isDigit s
  if digits.head? = some '0' && digits.length ≠ 1 then none else some digits

def splitSign : Text → Option Char × Text
  | '+' :: rest => (some '+', rest)
  | '-' :: rest => (some '-', rest)
  | s => (none, s)

/-- Integers from the least of 64 bits with sign to the greatest of 64 bits without. -/
def ofInteger? (i : Int) : Option Json :=
  if Int64.minValue.toInt ≤ i && i < UInt64.size then some (.ofInt i) else none

def baseValue (base : Nat) (digits : Text) : Nat :=
  digits.foldl (fun n c => n * base + (hexValue? c).getD 0) 0

def readBase? (base : Nat) (s : Text) : Option Json := do
  let isDigit := fun c => match hexValue? c with
    | some d => decide (d < base)
    | none => false
  ofInteger? (baseValue base (← digitRun? isDigit s))

def readInteger? (s : Text) : Option Json :=
  match s with
  | '0' :: 'x' :: rest => readBase? 16 rest
  | '0' :: 'o' :: rest => readBase? 8 rest
  | '0' :: 'b' :: rest => readBase? 2 rest
  | _ => do
    let (sign, rest) := splitSign s
    let n := decimalValue (← wholeDigits? rest)
    ofInteger? (if sign = some '-' then -n else n)

/-- The number that the nearest double stands for: zero from half of the least positive double
downwards, and none from halfway beyond the greatest double upwards. -/
def roundDouble? (negative : Bool) (digits : Nat) (exponent : Int) : Option Number :=
  let magnitude := (Nat.toDigits 10 digits).length + exponent
  if digits = 0 || magnitude < -400 then some ⟨negative, 0, 0⟩
  else if magnitude > 400 then none
  else
    let num := digits * Nat.pow 10 exponent.toNat
    let den := Nat.pow 10 (-exponent).toNat
    if num * Nat.pow 2 1075 ≤ den then some ⟨negative, 0, 0⟩
    else if (Nat.pow 2 1024 - Nat.pow 2 970) * den ≤ num then none
    else some ⟨negative, digits, exponent⟩

def readExponent? (s : Text) : Option Int := do
  let (sign, rest) := splitSign s
  let n := decimalValue (← digitRun? Char.isDigit rest)
  some (if sign = some '-' then -n else n)

def readFloat? (s : Text) : Option Json := do
  let (sign, s) := splitSign s
  let (whole, s) := s.span fun c => c.isDigit || c == '_'
  let whole ← wholeDigits? whole
  let (fraction, s) ← match s with
    | '.' :: rest =>
      let (fraction, rest) := rest.span fun c => c.isDigit || c == '_'
      (digitRun? Char.isDigit fraction).map (·, rest)
    | _ => some ([], s)
  let exponent ← match s with
    | [] => if fraction.isEmpty then none else some 0
    | c :: rest => if c = 'e' || c = 'E' then readExponent? rest else none
  let n ← roundDouble? (sign = some '-') (decimalValue (whole ++ fraction))
    (exponent - fraction.length)
  some (.number n)

/-- Infinity and not-a-number have no counterpart among values and count as null. -/
def readSpecial? (s : Text) : Option Json :=
  let (_, name) := splitSign s
  if name = "inf".toList || name = "nan".toList then some .null else none

def twoDigits? (low high : Nat) : Text → Option (Nat × Text)
  | a :: b :: rest =>
    let n := decimalValue [a, b]
    if a.isDigit && b.isDigit && low ≤ n && n ≤ high then some (n, rest) else none
  | _ => none

def expectChar? (c : Char) : Text → Option Text
  | d :: rest => if d = c then some rest else none
  | [] => none

def daysInMonth (year month : Nat) : Nat :=
  if month = 2 then
    if year % 4 = 0 && (year % 100 ≠ 0 || year % 400 = 0) then 29 else 28
  else if month = 4 || month = 6 || month = 9 || month = 11 then 30
  else 31

/-- A calendar date; gives what follows it. -/
def afterDate? (s : Text) : Option Text := do
  let year := s.take 4
  if year.length ≠ 4 || !year.all Char.isDigit then none
  let (month, rest) ← twoDigits? 1 12 (← expectChar? '-' (s.drop 4))
  let (_, rest) ← twoDigits? 1 (daysInMonth (decimalValue year) month) (← expectChar? '-' rest)
  some rest

/-- A time of day, seconds and their fraction being optional; gives what follows it. -/
def afterTime? (s : Text) : Option Text := do
  let (_, rest) ← twoDigits? 0 23 s
  let (_, rest) ← twoDigits? 0 59 (← expectChar? ':' rest)
  match rest with
  | ':' :: rest =>
    let (_, rest) ← twoDigits? 0 60 rest
    match rest with
    | '.' :: rest =>
      let (fraction, rest) := rest.span Char.isDigit
      if fraction.isEmpty then none else some rest
    | _ => some rest
  | _ => some rest

/-- A distance from universal time, or nothing. -/
def isOffset (s : Text) : Bool :=
  match s with
  | [] => true
  | ['Z'] => true
  | ['z'] => true
  | c :: rest =>
    (c == '+' || c == '-') && (do
      let (_, rest) ← twoDigits? 0 23 rest
      let (_, rest) ← twoDigits? 0 59 (← expectChar? ':' rest)
      some rest) == some []

def isDateTime (s : Text) : Bool :=
  match afterDate? s with
  | none => afterTime? s == some []
  | some [] => true
  | some (c :: rest) => (c == 'T' || c == 't' || c == ' ') && (afterTime? rest).any isOffset

/-- The name of the one member of an object that stands for a date or a time of day. -/
def dateTimeField : Text :=
  "$__toml_private_datetime".toList

def readDateTime? (s : Text) : Option Json :=
  if isDateTime s then some (.object [(dateTimeField, .string s)]) else none

def scalar? (s : Text) : Option Json :=
  if s = "true".toList then some (.bool true)
  else if s = "false".toList then some (.bool false)
  else readSpecial? s <|> readInteger? s <|> readFloat? s <|> readDateTime? s

end SolverInput.Toml
