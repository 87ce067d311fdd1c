import SolverInput.Json
import SolverInput.Text

namespace SolverInput

/-- A decimal numeral, taken apart. -/
structure Numeral where
  negative : Bool
  whole : Text
  fraction : Text
  exponent : Int
  deriving DecidableEq

namespace Numeral

/-- The digits of an exponent with the sign that may precede them. -/
def readExponent? (s : Text) : Option Int :=
  let (negative, digits) := match s with
    | '-' :: rest => (true, rest)
    | '+' :: rest => (false, rest)
    | _ => (false, s)
  if digits.isEmpty || !digits.all Char.isDigit then none
  else if negative then some (-(decimalValue digits : Int)) else some (decimalValue digits)

/-- Reads the grammar of JSON: no plus sign, no leading zero, a digit on both sides of the point. -/
def ofText? (s : Text) : Option Numeral :=
  let (negative, s) := match s with
    | '-' :: rest => (true, rest)
    | _ => (false, s)
  let (whole, s) := s.span Char.isDigit
  if whole.isEmpty || (whole.head? = some '0' && whole.length ≠ 1) then none
  else
    let (pointed, fraction, s) := match s with
      | '.' :: rest => let (fraction, rest) := rest.span Char.isDigit; (true, fraction, rest)
      | _ => (false, [], s)
    if pointed && fraction.isEmpty then none
    else match s with
      | [] => some ⟨negative, whole, fraction, 0⟩
      | c :: rest =>
        if c = 'e' || c = 'E' then
          (readExponent? rest).map fun exponent => ⟨negative, whole, fraction, exponent⟩
        else none

/-- Appends a digit to a number of 64 bits. Once a digit does not fit, it and all later ones only
raise the exponent. -/
def pushWhole (acc : Nat × Int) (c : Char) : Nat × Int :=
  let n := acc.1 * 10 + digitValue c
  if acc.2 = 0 && n < UInt64.size then (n, 0) else (acc.1, acc.2 + 1)

/-- Appends a digit after the point. Once a digit does not fit, it and all later ones are
dropped. -/
def pushFraction (acc : Nat × Int × Bool) (c : Char) : Nat × Int × Bool :=
  let n := acc.1 * 10 + digitValue c
  if acc.2.2 && n < UInt64.size then (n, acc.2.1 - 1, true) else (acc.1, acc.2.1, false)

/-- The leading digits that fit 64 bits, and the power of ten that they are taken times. -/
def significand (n : Numeral) : Nat × Int :=
  let (digits, shift) := n.whole.foldl pushWhole (0, 0)
  let (digits, shift, _) := n.fraction.foldl pushFraction (digits, shift, true)
  (digits, shift + n.exponent)

end Numeral

namespace Number

def powerOfTen (k : Nat) : Float :=
  .ofScientific 1 false k

/-- The double that stands for `digits` times ten to the power `exponent`. Ten to the power 308 is
the largest that is a double, so smaller numbers are reached in steps. -/
def toDouble (digits : Nat) (exponent : Int) : Float :=
  let x := digits.toUInt64.toFloat
  if exponent > 308 then (if digits = 0 then 0 else 1 / 0)
  else if exponent ≥ 0 then x * powerOfTen exponent.toNat
  else if exponent ≥ -308 then x / powerOfTen (-exponent).toNat
  else if exponent ≥ -616 then x / powerOfTen 308 / powerOfTen (-exponent - 308).toNat
  else 0

/-- A numeral beyond the range of doubles is refused, and one too small for them is zero. -/
def ofNumeral? (n : Numeral) : Option Number :=
  let (digits, exponent) := n.significand
  if exponent = 0 then some ⟨n.negative, digits, 0⟩
  else
    let x := toDouble digits exponent
    if x.isInf then none
    else if x == 0 then some ⟨n.negative, 0, 0⟩
    else some ⟨n.negative, digits, exponent⟩

def toText (n : Number) : Text :=
  (if n.negative then ['-'] else []) ++ Nat.toDigits 10 n.digits ++
    match n.exponent with
    | 0 => []
    | .ofNat e => 'e' :: Nat.toDigits 10 e
    | .negSucc e => 'e' :: '-' :: Nat.toDigits 10 (e + 1)

end Number

end SolverInput
