import SolverInput.Pattern.Escape

namespace SolverInput.Pattern

structure Member where
  set : CharSet
  /-- How many brackets, lists and operations surround its innermost part. -/
  depth : Nat

inductive SetOperator where
  | inter
  | diff
  | symmDiff

def SetOperator.apply : SetOperator → CharSet → CharSet → CharSet
  | inter => .inter
  | diff => .diff
  | symmDiff => .symmDiff

structure Bracket where
  negated : Bool
  /-- Nothing but hyphens was read: one more, or a closing bracket at once, stands for itself. -/
  isFresh : Bool
  /-- What stands before the last operator, and the operator. -/
  left : Option (Member × SetOperator)
  /-- The members after the last operator, the last one first. -/
  members : List Member

namespace Bracket

def push (b : Bracket) (m : Member) : Bracket :=
  { b with isFresh := false, members := m :: b.members }

def right (b : Bracket) : Member :=
  match b.members with
  | [m] => m
  | ms => ⟨.unions (ms.map (·.set)), if ms.isEmpty then 0 else (ms.map (·.depth)).foldl max 0 + 1⟩

/-- What stands in the brackets. Operators are applied from left to right. -/
def inside (f : Flags) (b : Bracket) : Member :=
  match b.left with
  | none => b.right
  | some (l, op) =>
    ⟨op.apply (f.fold l.set) (f.fold b.right.set), max l.depth b.right.depth + 1⟩

def operate (f : Flags) (op : SetOperator) (b : Bracket) : Bracket :=
  { b with isFresh := false, left := some (b.inside f, op), members := [] }

def close? (f : Flags) (b : Bracket) : Option Member := do
  let m := b.inside f
  return ⟨← f.negate? b.negated (f.fold m.set), m.depth + 1⟩

/-- What follows an opening bracket: it may be negated. -/
def openWith (f : Flags) (s : Text) : Bracket × Text :=
  match f.skip s with
  | '^' :: rest => (⟨true, true, none, []⟩, rest)
  | rest => (⟨false, true, none, []⟩, rest)

/-- The name of a set of ASCII characters between colons, in brackets of its own: whether it is
negated, and the set. -/
def readNamed? : Text → Option (Bool × CharSet × Text)
  | ':' :: rest =>
    let (negated, rest) := match rest with
      | '^' :: rest => (true, rest)
      | _ => (false, rest)
    match rest.span (· != ':') with
    | (name, ':' :: ']' :: rest) =>
      (Property.asciiClass? name).map fun set => (negated, set, rest)
    | _ => none
  | _ => none

def readItem? (f : Flags) : Text → Option (Escape × Text)
  | [] => none
  | '\\' :: rest => readEscape? f rest
  | c :: rest => some (.char c false, rest)

/-- A character for a set. Without Unicode there are only those of ASCII. -/
def character? (f : Flags) : Escape → Option Char
  | .char c _ => if f.unicode || c.toNat < 0x80 then some c else none
  | _ => none

def set? (f : Flags) : Escape → Option CharSet
  | .set s => some s
  | e => (character? f e).map .single

/-- Whether a hyphen that is followed by `s` stands between the ends of a range. It does not before
a closing bracket or another hyphen; a number sign hides blanks, but not what else it comments. -/
def isRange (f : Flags) (s : Text) : Bool :=
  let next := if f.spaced then
      match s.dropWhile isBlank with
      | '#' :: rest => (rest.dropWhile isBlank).head?
      | rest => rest.head?
    else s.head?
  next != some ']' && next != some '-'

def readMember? (f : Flags) (s : Text) : Option (Member × Text) := do
  let (first, rest) ← readItem? f s
  match f.skip rest with
  | [] => none
  | '-' :: rest =>
    if isRange f rest then
      let (last, rest) ← readItem? f (f.skip rest)
      let lo ← character? f first
      let hi ← character? f last
      if lo ≤ hi then some (⟨.span lo hi, 0⟩, rest) else none
    else return (⟨← set? f first, 0⟩, '-' :: rest)
  | rest => return (⟨← set? f first, 0⟩, rest)

/-- Reads up to the end of the outermost brackets. The innermost open ones come first. -/
def read? (f : Flags) : Nat → Bracket → List Bracket → Text → Option (Member × Text)
  | 0, _, _, _ => none
  | n + 1, b, outer, s => match f.skip s with
    | [] => none
    | c :: rest =>
      if b.isFresh && (c = '-' || (c = ']' && b.members.isEmpty)) then
        read? f n { b.push ⟨.single c, 0⟩ with isFresh := c = '-' } outer rest
      else match c, rest with
        | '[', _ => match readNamed? rest with
          | some (negated, set, rest) => do
            let set ← f.negate? negated (f.fold set)
            read? f n (b.push ⟨set, 0⟩) outer rest
          | none =>
            let (inner, rest) := openWith f rest
            read? f n inner (b :: outer) rest
        | ']', _ => do
          let m ← b.close? f
          match outer with
          | [] => some (m, rest)
          | up :: outer => read? f n (up.push m) outer rest
        | '&', '&' :: rest => read? f n (b.operate f .inter) outer rest
        | '-', '-' :: rest => read? f n (b.operate f .diff) outer rest
        | '~', '~' :: rest => read? f n (b.operate f .symmDiff) outer rest
        | _, _ => do
          let (m, rest) ← readMember? f (c :: rest)
          read? f n (b.push m) outer rest

end Bracket

def readBrackets? (f : Flags) (s : Text) : Option (Member × Text) :=
  let (b, rest) := Bracket.openWith f s
  Bracket.read? f (s.length + 1) b [] rest

end SolverInput.Pattern
