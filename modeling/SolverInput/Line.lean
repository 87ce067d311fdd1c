import SolverInput.Keyword
import SolverInput.Pattern.Capture
import SolverInput.Pattern.Reader
import SolverInput.Section

namespace SolverInput

structure Header where
  /-- The name in lower case, its words joined by single spaces. -/
  name : Text
  /-- The number after the name, as written. -/
  index : Option Text
  deriving DecidableEq

/-- A letter in either case. -/
def Pattern.letter (c : Char) : Pattern :=
  .one (.caseless (.single c))

def Pattern.blanks (least : Nat) : Pattern :=
  .repeated (.one Property.blanks) least none false

namespace Header

/-- The words of the names that begin a header, in the order in which they are tried. -/
def titles : List (List String) :=
  [["Header"], ["Simulation"], ["Constants"], ["Equation"], ["Solver"], ["Material"],
    ["Body", "Force"], ["Body"], ["Boundary", "Condition"], ["Initial", "Condition"],
    ["Component"], ["Boundary"]]

def titlePattern (title : List String) : Pattern :=
  .sequence ([Pattern.blanks 1].intercalate (title.map (·.toList.map Pattern.letter)))

def numberPattern : Pattern :=
  .seq (.blanks 1) (.group (.repeated (.one (.caseless (.span '0' '9'))) 1 none false))

/-- A name, a number or none, and nothing else but blanks. The name and the number are groups. -/
def pattern : Pattern :=
  .sequence
    [.empty, .anchor .start, .blanks 0, .group (.choice (titles.map titlePattern)),
      .repeated numberPattern 0 (some 1) false, .blanks 0, .anchor .finish]

/-- The pattern as a regular expression. -/
example :
    Pattern.ofText?
      (r"(?i)^\s*(Header|Simulation|Constants|Equation|Solver|Material|Body\s+Force|Body|".toList ++
        r"Boundary\s+Condition|Initial\s+Condition|Component|Boundary)".toList ++
        r"(?:\s+([0-9]+))?\s*$".toList) = some pattern := by
  decide +kernel

def ofFit? (f : Fit) : Option Header :=
  (f.group? 1).map fun title => { name := normalize title, index := f.group? 2 }

def ofLine? (line : Text) : Option Header :=
  (pattern.captures? line).bind ofFit?

/-- The section that the header opens. There is none for a name written with a long s, which lower
case does not change. -/
def section? (h : Header) : Option Section :=
  Section.ofName? h.name

end Header

inductive LineRole where
  | blank
  | comment
  | header (h : Header)
  | sectionEnd
  /-- Any other line, whether it assigns a keyword or not. -/
  | content
  deriving DecidableEq

namespace LineRole

/-- The line that closes a section: the word `end` alone. -/
def endPattern : Pattern :=
  .sequence
    [.empty, .anchor .start, .blanks 0, .letter 'E', .letter 'n', .letter 'd', .blanks 0,
      .anchor .finish]

example : Pattern.ofText? r"(?i)^\s*End\s*$".toList = some endPattern := by
  decide +kernel

def ofLine (line : Text) : LineRole :=
  let trimmed := trim line
  if trimmed.isEmpty then blank
  else if trimmed.head? = some '!' then comment
  else match Header.ofLine? trimmed with
    | some h => header h
    | none => if endPattern.occursIn trimmed then sectionEnd else content

end LineRole

/-- The keyword of a line, if the line is neither blank nor part of the structure. -/
def lineToken? (line : Text) : Option Token :=
  match LineRole.ofLine line with
  | .content => Token.ofLine? line
  | _ => none

end SolverInput
