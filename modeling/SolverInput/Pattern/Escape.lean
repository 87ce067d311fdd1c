import SolverInput.Pattern
import SolverInput.Pattern.Property
import SolverInput.Text

namespace SolverInput.Pattern

/-- What holds for a part of a pattern while it is read. -/
structure Flags where
  caseless : Bool
  /-- Lines have starts and ends, not the whole text alone. -/
  multiline : Bool
  /-- A dot fits line ends too. -/
  dotAll : Bool
  /-- A carriage return ends a line too. -/
  carriageReturn : Bool
  unicode : Bool
  /-- Blanks and comments do not count. -/
  spaced : Bool
  /-- Repetitions are lazy unless a question mark follows them. -/
  lazy : Bool

namespace Flags

def initial : Flags :=
  ⟨false, false, false, false, true, false, false⟩

/-- Sets or clears a flag by its letter. -/
def set? (f : Flags) (on : Bool) : Char → Option Flags
  | 'i' => some { f with caseless := on }
  | 'm' => some { f with multiline := on }
  | 's' => some { f with dotAll := on }
  | 'R' => some { f with carriageReturn := on }
  | 'u' => some { f with unicode := on }
  | 'x' => some { f with spaced := on }
  | 'U' => some { f with lazy := on }
  | _ => none

/-- Drops blanks and comments, which go from a number sign to the end of the line. -/
def dropSpace (inComment : Bool) : Text → Text
  | [] => []
  | c :: rest =>
    if inComment then dropSpace (c != '\n') rest
    else if isBlank c then dropSpace false rest
    else if c = '#' then dropSpace true rest
    else c :: rest

def skip (f : Flags) (s : Text) : Text :=
  if f.spaced then dropSpace false s else s

/-- Closes a set under changes of case, if case does not count. -/
def fold (f : Flags) (set : CharSet) : CharSet :=
  if !f.caseless then set
  else if f.unicode then .caseless set
  else .asciiCaseless set

/-- The other characters. Without Unicode there is no such set. -/
def negate? (f : Flags) (negated : Bool) (set : CharSet) : Option CharSet :=
  if !negated then some set
  else if f.unicode then some (.complement set)
  else none

def wordChars (f : Flags) : CharSet :=
  if f.unicode then Property.wordChars else Property.asciiWordChars

/-- The set of a letter after a backslash. A capital negates it. -/
def letterSet? (f : Flags) (c : Char) : Option CharSet :=
  f.negate? c.isUpper <| match c.toLower with
    | 'd' => if f.unicode then Property.digits else Property.asciiDigits
    | 's' => if f.unicode then Property.blanks else Property.asciiBlanks
    | _ => f.wordChars

end Flags

inductive Escape where
  /-- A character; `isByte` if two hexadecimal digits give it. -/
  | char (c : Char) (isByte : Bool)
  | set (s : CharSet)
  | anchor (a : Anchor)

/-- The characters up to a closing brace, without those that do not count. -/
def readBraced? (spaced inComment : Bool) : Text → Option (Text × Text)
  | [] => none
  | c :: rest =>
    if inComment then readBraced? spaced (c != '\n') rest
    else if c = '\x7d' then some ([], rest)
    else if spaced && isBlank c then readBraced? spaced false rest
    else if spaced && c = '#' then readBraced? spaced true rest
    else (readBraced? spaced false rest).map fun (inside, rest) => (c :: inside, rest)

def charOfHex? (digits : Text) : Option Char := do
  let values ← digits.mapM hexValue?
  let n := values.foldl (fun n d => n * 16 + d) 0
  if !digits.isEmpty && n.isValidChar then some (Char.ofNat n) else none

def readExactly? (f : Flags) : Nat → Text → Option (Text × Text)
  | 0, s => some ([], s)
  | n + 1, s => match f.skip s with
    | [] => none
    | c :: rest => (readExactly? f n rest).map fun (others, rest) => (c :: others, rest)

/-- A character by its number: in braces, or with a fixed count of digits. -/
def readHex? (f : Flags) (count : Nat) (s : Text) : Option (Escape × Text) :=
  match f.skip s with
  | '\x7b' :: rest => do
    let (digits, rest) ← readBraced? f.spaced false rest
    return (.char (← charOfHex? digits) false, rest)
  | s => do
    let (digits, rest) ← readExactly? f count s
    return (.char (← charOfHex? digits) (count == 2), rest)

def readProperty? (f : Flags) (s : Text) : Option (CharSet × Text) :=
  match f.skip s with
  | [] => none
  | '\x7b' :: rest => do
    let (inside, rest) ← readBraced? f.spaced false rest
    return (← Property.ofText? inside, rest)
  | c :: rest => do return (← Property.ofName? [c], rest)

/-- The characters with a property, or those without it. Only Unicode has properties. -/
def readPropertySet? (f : Flags) (negated : Bool) (s : Text) : Option (Escape × Text) := do
  let (set, rest) ← readProperty? f s
  if !f.unicode then none
  return (.set (← f.negate? negated (f.fold set)), rest)

/-- The edge of a word. Braces after it may tell which one; otherwise they belong to a repetition. -/
def readWordEdge? (f : Flags) (s : Text) : Option (Escape × Text) :=
  match s with
  | '\x7b' :: rest => match f.skip rest with
    | [] => none
    | c :: _ =>
      if !c.isAlpha && c != '-' then some (.anchor (.wordEdge f.wordChars), s)
      else do
        let (name, rest) ← readBraced? f.spaced false rest
        if name = "start".toList then some (.anchor (.wordStart f.wordChars), rest)
        else if name = "end".toList then some (.anchor (.wordEnd f.wordChars), rest)
        else if name = "start-half".toList then some (.anchor (.wordStartHalf f.wordChars), rest)
        else if name = "end-half".toList then some (.anchor (.wordEndHalf f.wordChars), rest)
        else none
  | _ => some (.anchor (.wordEdge f.wordChars), s)

def isEscapable (c : Char) : Bool :=
  c.toNat < 0x80 && !c.isAlphanum && c != '<' && c != '>'

def readEscape? (f : Flags) : Text → Option (Escape × Text)
  | [] => none
  | c :: rest => match c with
    | 'x' => readHex? f 2 rest
    | 'u' => readHex? f 4 rest
    | 'U' => readHex? f 8 rest
    | 'p' => readPropertySet? f false rest
    | 'P' => readPropertySet? f true rest
    | 'b' => readWordEdge? f rest
    | 'B' => some (.anchor (.noWordEdge f.wordChars), rest)
    | '<' => some (.anchor (.wordStart f.wordChars), rest)
    | '>' => some (.anchor (.wordEnd f.wordChars), rest)
    | 'A' => some (.anchor .start, rest)
    | 'z' => some (.anchor .finish, rest)
    | 'a' => some (.char '\x07' false, rest)
    | 'f' => some (.char '\x0c' false, rest)
    | 't' => some (.char '\t' false, rest)
    | 'n' => some (.char '\n' false, rest)
    | 'r' => some (.char '\r' false, rest)
    | 'v' => some (.char '\x0b' false, rest)
    | _ =>
      if "dswDSW".toList.contains c then (f.letterSet? c).map fun set => (.set set, rest)
      else if isEscapable c then some (.char c false, rest)
      else none

end SolverInput.Pattern
