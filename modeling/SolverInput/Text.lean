namespace SolverInput

/-- A text is the list of its Unicode scalar values. -/
abbrev Text := List Char

/-- The characters that have the Unicode property White_Space. -/
def isBlank (c : Char) : Bool :=
  let n := c.toNat
  (0x9 ≤ n && n ≤ 0xd) || n == 0x20 || n == 0x85 || n == 0xa0 || n == 0x1680 ||
    (0x2000 ≤ n && n ≤ 0x200a) || n == 0x2028 || n == 0x2029 || n == 0x202f ||
    n == 0x205f || n == 0x3000

/-- The maximal runs of characters that are not blank. -/
def words (s : Text) : List Text :=
  (s.splitOnP isBlank).filter (!·.isEmpty)

def unwords (ws : List Text) : Text :=
  [' '].intercalate ws

def trimLeft (s : Text) : Text :=
  s.dropWhile isBlank

def trimRight (s : Text) : Text :=
  (s.reverse.dropWhile isBlank).reverse

def trim (s : Text) : Text :=
  trimRight (trimLeft s)

/-- The number of characters before the first occurrence of a part in a text. -/
def firstIndex? (part : Text) : Text → Option Nat
  | [] => if part.isEmpty then some 0 else none
  | c :: rest =>
    if part.isPrefixOf (c :: rest) then some 0 else (firstIndex? part rest).map (· + 1)

/-- Drops one byte-order mark from the beginning. -/
def dropMark : Text → Text
  | '\ufeff' :: s => s
  | s => s

/-- Drops one carriage return from the end. -/
def dropReturn (l : Text) : Text :=
  if l.getLast? = some '\r' then l.dropLast else l

/-- The lines of a text. Each line feed ends a line, and a carriage return just before it belongs
to the end; what follows the last line feed is a line only if there is something. -/
def lines (s : Text) : List Text :=
  let pieces := s.splitOnP (· == '\n')
  let ended := pieces.dropLast.map dropReturn
  match pieces.getLast? with
  | none | some [] => ended
  | some rest => ended ++ [rest]

/-- A character outside the Basic Multilingual Plane takes two UTF-16 code units. -/
def unitCount (c : Char) : Nat :=
  if c.toNat < 0x10000 then 1 else 2

/-- The length of a text in UTF-16 code units. -/
def units16 (s : Text) : Nat :=
  s.foldr (fun c n => unitCount c + n) 0

def digitValue (c : Char) : Nat :=
  c.toNat - '0'.toNat

/-- The number that a run of decimal digits writes. -/
def decimalValue (digits : Text) : Nat :=
  digits.foldl (fun n c => n * 10 + digitValue c) 0

/-- The value of a hexadecimal digit, in capital or small letters. -/
def hexValue? (c : Char) : Option Nat :=
  if c.isDigit then some (digitValue c)
  else if 'a' ≤ c && c ≤ 'f' then some (c.toNat - 'a'.toNat + 10)
  else if 'A' ≤ c && c ≤ 'F' then some (c.toNat - 'A'.toNat + 10)
  else none

end SolverInput
