import SolverInput.Text.LetterCase

namespace SolverInput

/-- The form in which keywords and section names are compared: words in lower case, one space
between each two. -/
def normalize (s : Text) : Text :=
  lowercase (unwords (words s))

/-- The text with a number at its end, when blanks set it off, replaced by one space and `1`. All
members of a numbered family of keywords share this base. -/
def numberedBase (s : Text) : Text :=
  let (digits, front) := s.reverse.span Char.isDigit
  let (blanks, stem) := front.span isBlank
  if digits.isEmpty || blanks.isEmpty then s else stem.reverse ++ [' ', '1']

/-- A keyword as it stands in a line. -/
structure Token where
  /-- The keyword as written, without blanks around it. -/
  raw : Text
  start : Nat
  deriving DecidableEq

namespace Token

def stop (t : Token) : Nat :=
  t.start + t.raw.length

def keyword (t : Token) : Text :=
  normalize t.raw

/-- The characters that end a keyword and begin its value. -/
def isDelimiter (c : Char) : Bool :=
  c == '=' || c == '('

/-- The characters that a keyword may have after its first, which is a letter. -/
def isAllowed (c : Char) : Bool :=
  c.isAlphanum || isBlank c || c == '-' || c == '\x7b' || c == '\x7d'

/-- Whether a delimiter is next, blanks aside. -/
def delimiterFollows (s : Text) : Bool :=
  (trimLeft s).head?.any isDelimiter

/-- Takes allowed characters up to the first place where a delimiter follows. -/
def takeToDelimiter? : Text → Option Text
  | [] => none
  | c :: rest =>
    if delimiterFollows (c :: rest) then some []
    else if isAllowed c then (takeToDelimiter? rest).map (c :: ·) else none

/-- What stands between the blanks at the beginning of a line and its delimiter, if it begins with a
letter. -/
def capture? (line : Text) : Option Text :=
  match trimLeft line with
  | [] => none
  | c :: rest => if c.isAlpha then (takeToDelimiter? rest).map (c :: ·) else none

/-- The keyword that a line assigns. Its column is that of its first occurrence in the line. -/
def ofLine? (line : Text) : Option Token := do
  let raw := trim (← capture? line)
  if raw.isEmpty then none
  else return { raw, start := ← firstIndex? raw line }

end Token

end SolverInput
