import SolverInput.Json.Numeral

namespace SolverInput.Json

/-- Two lower-case hexadecimal digits. -/
def hexPair (n : Nat) : Text :=
  [Nat.digitChar (n / 16), Nat.digitChar (n % 16)]

/-- Quotation marks, backslashes and control characters are escaped, and nothing else. -/
def escape (c : Char) : Text :=
  if c = '"' then ['\\', '"']
  else if c = '\\' then ['\\', '\\']
  else if c = '\x08' then ['\\', 'b']
  else if c = '\x0c' then ['\\', 'f']
  else if c = '\n' then ['\\', 'n']
  else if c = '\r' then ['\\', 'r']
  else if c = '\t' then ['\\', 't']
  else if c.toNat < 0x20 then ['\\', 'u', '0', '0'] ++ hexPair c.toNat
  else [c]

def quote (s : Text) : Text :=
  '"' :: s.flatMap escape ++ ['"']

/-- What stands between the parts of an array or object. -/
structure Layout where
  /-- Stands before each item at a depth, and before the closing bracket. -/
  lineBreak : Nat → Text
  /-- Stands between the name of a member and its value. -/
  colon : Text

/-- No spaces at all. -/
def Layout.compact : Layout :=
  ⟨fun _ => [], [':']⟩

/-- One item a line, each level two spaces further in. -/
def Layout.indented : Layout :=
  ⟨fun depth => '\n' :: List.replicate (2 * depth) ' ', [':', ' ']⟩

mutual

def writeAt (l : Layout) (depth : Nat) : Json → Text
  | .null => "null".toList
  | .bool true => "true".toList
  | .bool false => "false".toList
  | .number n => n.toText
  | .string s => quote s
  | .array [] => ['[', ']']
  | .array (v :: vs) =>
    '[' :: l.lineBreak (depth + 1) ++ writeAt l (depth + 1) v ++
      writeItems l (depth + 1) vs ++ l.lineBreak depth ++ [']']
  | .object [] => ['\x7b', '\x7d']
  | .object ((k, v) :: ms) =>
    '\x7b' :: l.lineBreak (depth + 1) ++ quote k ++ l.colon ++ writeAt l (depth + 1) v ++
      writeMembers l (depth + 1) ms ++ l.lineBreak depth ++ ['\x7d']

/-- Further items of an array, each after a comma. -/
def writeItems (l : Layout) (depth : Nat) : List Json → Text
  | [] => []
  | v :: vs => ',' :: l.lineBreak depth ++ writeAt l depth v ++ writeItems l depth vs

/-- Further members of an object, each after a comma. -/
def writeMembers (l : Layout) (depth : Nat) : List (Text × Json) → Text
  | [] => []
  | (k, v) :: ms =>
    ',' :: l.lineBreak depth ++ quote k ++ l.colon ++ writeAt l depth v ++ writeMembers l depth ms

end

def write (l : Layout) (v : Json) : Text :=
  writeAt l 0 v

end SolverInput.Json
